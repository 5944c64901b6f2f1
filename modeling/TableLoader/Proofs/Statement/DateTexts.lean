/-
# Texts of dates and times

In a column of dates or times a text stands for what it says (`ColumnType.ReadsAs`):
it is bound as it is, and when the row is complete it makes the row that the date or
the time itself makes. A text makes a row as another value does if the two are sent
alike (`addRow_withParameter`, `readsAs_of_sent`), and how a text is sent is decided by
the type inside all wrappers.

So the text of a date, and the text of any time of that date, stand for the date; and
the text of a time stands for the time, up to an offset of less than a second, which is
lost (`texts_read`).

Key definitions: `Statement.withParameter`, `ColumnType.ReadsAs`.
Key theorems: `addRow_withParameter`, `readsAs_of_sent`, `texts_read`.
-/
import TableLoader.Proofs.Calendar.Offset
import TableLoader.Proofs.Statement.Defaults

namespace TableLoader

open Calendar

namespace Statement

/-! ### Values that are sent alike -/

/-- The statement with another parameter at a place. -/
def withParameter (i : Nat) (p : Parameter) (s : Statement) : Statement :=
  { s with parameters := s.parameters.set i (some p) }

section Alike

variable {s : Statement} {i : Nat} {t : ColumnType} {p q : Parameter}

theorem unboundIndices_withParameter (hp : s.parameters[i]? = some (some p)) (q : Parameter) :
    (s.withParameter i q).unboundIndices = s.unboundIndices := by
  obtain ⟨hi, hget⟩ := List.getElem?_eq_some_iff.mp hp
  obtain ⟨front, back, hsplit, -, hset⟩ := @List.exists_of_set _ _ (some q) _ hi
  rw [hget] at hsplit
  unfold withParameter unboundIndices
  rw [hset, hsplit]
  simp [List.zipIdx_append, List.filter_append]

/-- If all parameters are bound, one that is sent alike makes the same row. -/
theorem row_withParameter (hbound : s.unboundIndices = []) (ht : s.types[i]? = some t)
    (hp : s.parameters[i]? = some (some p)) (h : q.sent t = p.sent t) :
    (s.withParameter i q).row = s.row := by
  have hbound' : (s.withParameter i q).unboundIndices = [] := by
    rw [unboundIndices_withParameter hp, hbound]
  obtain ⟨ps, hps, hrow⟩ := exists_parameters hbound
  obtain ⟨qs, hqs, hrow'⟩ := exists_parameters hbound'
  have hset : qs = ps.set i q := by
    refine List.map_injective_iff.mpr (Option.some_injective Parameter) ?_
    rw [← hqs, List.map_set, ← hps]
    rfl
  have hpi : ps[i]? = some p := by
    rw [hps, List.getElem?_map] at hp
    simpa using hp
  rw [hrow', hrow, hset]
  -- The two rows are sent from lists that are the same but at the place, and there they agree.
  show (s.types.zip (ps.set i q)).mapM (fun x => x.2.sent x.1) = _
  have hcells : (s.types.zip (ps.set i q)).map (fun x => x.2.sent x.1) =
      (s.types.zip ps).map fun x => x.2.sent x.1 := by
    rw [List.map_zip_eq_zipWith, List.map_zip_eq_zipWith]
    refine List.ext_getElem? fun k => ?_
    rw [List.getElem?_zipWith, List.getElem?_zipWith]
    by_cases hik : i = k
    · subst hik
      rw [List.getElem?_set_self (List.getElem?_eq_some_iff.mp hpi).1, ht, hpi]
      exact congrArg some h
    · rw [List.getElem?_set_ne hik]
  have hmapM : ∀ l : List (ColumnType × Parameter),
      l.mapM (fun x => x.2.sent x.1) = (l.map fun x => x.2.sent x.1).mapM id := by
    intro l
    rw [List.mapM_map]
    rfl
  rw [hmapM, hmapM, hcells]

/-- A row takes a parameter as it takes another one that is sent alike. -/
theorem addRow_withParameter (ht : s.types[i]? = some t) (hp : s.parameters[i]? = some (some p))
    (h : q.sent t = p.sent t) : (s.withParameter i q).addRow = s.addRow := by
  have hunbound := unboundIndices_withParameter hp q
  have hclosed : (s.withParameter i q).closed = s.closed := rfl
  unfold addRow
  rw [hunbound, hclosed]
  split
  · rfl
  · split
    · rfl
    · next hbound =>
      have hlength : (s.withParameter i q).parameters.length = s.parameters.length :=
        List.length_set
      rw [row_withParameter (not_not.mp hbound) ht hp h, hlength]
      rfl

end Alike
end Statement

/-! ### What a text stands for -/

/-- In a column of the type the text stands for the cell: it is bound as it is, the cell is found
at its place in the row, and the row is the one that the cell itself makes. -/
structure ColumnType.ReadsAs (t : ColumnType) (text : String) (v : Cell) : Prop where
  bound {s : Statement} {i : Nat} : s.closed = false → i < s.parameters.length →
    s.set .text i (.text text) = .ok (s.withParameter i ⟨.varchar, .text text⟩)
  lands {s : Statement} {i : Nat} : s.closed = false → s.unboundIndices = [] →
    s.types[i]? = some t → s.parameters[i]? = some (some ⟨.varchar, .text text⟩) → s.Lands i v
  alike {s : Statement} {i : Nat} : s.types[i]? = some t → i < s.parameters.length →
    (do (← s.set .text i (.text text)).addRow) = (do (← s.set .text i v).addRow)

namespace ColumnType

variable {t : ColumnType}

/-- A text stands for the cell that is sent for it, if this cell is sent as it is. -/
theorem readsAs_of_sent {text : String} {v : Cell}
    (htext : Parameter.sent t ⟨.varchar, .text text⟩ = .ok v)
    (hcell : Parameter.sent t ⟨.varchar, v⟩ = .ok v) : t.ReadsAs text v where
  bound hopen hi := Statement.bind_open hopen hi _
  lands hopen hbound ht hp := Statement.lands_of_sent hopen hbound ht hp htext
  alike {s i} ht hi := by
    cases hclosed : s.closed with
    | true =>
      have hrefused : ∀ c, s.set .text i c = .error .closedStatement := fun c => if_pos hclosed
      rw [hrefused, hrefused]
    | false =>
      have hset : ∀ c, s.set .text i c = .ok (s.withParameter i ⟨.varchar, c⟩) := fun c =>
        Statement.bind_open hclosed hi _
      have hagain : s.withParameter i ⟨.varchar, v⟩ =
          (s.withParameter i ⟨.varchar, .text text⟩).withParameter i ⟨.varchar, v⟩ := by
        unfold Statement.withParameter
        rw [List.set_set]
      have hplace : (s.withParameter i ⟨.varchar, .text text⟩).parameters[i]? =
          some (some ⟨.varchar, .text text⟩) := List.getElem?_set_self hi
      rw [hset, hset, hagain]
      exact (Statement.addRow_withParameter (s := s.withParameter i ⟨.varchar, .text text⟩) ht hplace
        (hcell.trans htext.symm)).symm

/-- In a column of dates a text is sent as the date that its first ten characters say. -/
theorem sent_text_date {r text : String} {d : Date} (ht : t.core = .plain .date r)
    (hread : Date.read (text.toList.take 10) = some d) :
    Parameter.sent t ⟨.varchar, .text text⟩ = .ok (.date d) := by
  simp only [Parameter.sent, ht, hread]
  rfl

/-- In a column of times a text is sent as the time that it says. -/
theorem sent_text_dateTime {r text : String} {x : DateTime} (ht : t.core = .plain .dateTime r)
    (hread : DateTime.read text.toList = some x) :
    Parameter.sent t ⟨.varchar, .text text⟩ = .ok (.dateTime x) := by
  simp only [Parameter.sent, ht, hread]
  rfl

/-- In any other column a text is sent as it is. -/
theorem sent_text {text : String} (hdate : ∀ r, t.core ≠ .plain .date r)
    (hdateTime : ∀ r, t.core ≠ .plain .dateTime r) :
    Parameter.sent t ⟨.varchar, .text text⟩ = .ok (.text text) := by
  unfold Parameter.sent
  split
  · next ht => exact absurd ht (hdate _)
  · next ht => exact absurd ht (hdateTime _)
  · rfl

/-- A text that begins with the text of a date stands for the date in a column of dates. -/
theorem readsAs_date {r : String} (ht : t.core = .plain .date r) (d : Date) (more : List Char) :
    t.ReadsAs (String.ofList (d.chars ++ more)) (.date d) := by
  refine readsAs_of_sent (sent_text_date ht ?_) rfl
  rw [String.toList_ofList, List.take_left' d.length_chars, d.read_chars]

/-- The text of a time stands for the time, as it is read, in a column of times. -/
theorem readsAs_dateTime {r : String} (ht : t.core = .plain .dateTime r) (x : DateTime)
    {separator : Char} (hseparator : separator.toNat < 128) :
    t.ReadsAs (x.text separator) (.dateTime x.settled) := by
  refine readsAs_of_sent (sent_text_dateTime ht ?_) rfl
  rw [DateTime.text, String.toList_ofList, DateTime.read_text hseparator]

/-- **Texts of dates and times stand for what they say.** Whatever the text of a type is: in a column
of dates the text of a date, or of a time of that date, stands for the date; in a column of times
the text of a time stands for the time, unless its offset is less than a second, which counts as
none; and in any other column a text stands for itself. -/
theorem texts_read (raw : String) :
    let t := ColumnType.parse raw
    ((∃ r, t.core = .plain .date r) → (∀ d : Date, t.ReadsAs d.text (.date d)) ∧
      ∀ (x : DateTime) (separator : Char), separator = 'T' ∨ separator = ' ' →
        t.ReadsAs (x.text separator) (.date x.date)) ∧
    ((∃ r, t.core = .plain .dateTime r) →
      ∀ (x : DateTime) (separator : Char), separator = 'T' ∨ separator = ' ' →
        ((∀ o, x.offset = some o → o.microseconds = 0 ∨ 1000000 ≤ o.microseconds.natAbs) →
          t.ReadsAs (x.text separator) (.dateTime x)) ∧
        ∀ o, x.offset = some o → o.microseconds.natAbs < 1000000 →
          t.ReadsAs (x.text separator) (.dateTime { x with offset := some .zero })) ∧
    ((∀ r, t.core ≠ .plain .date r) → (∀ r, t.core ≠ .plain .dateTime r) →
      ∀ text : String, t.ReadsAs text (.text text)) := by
  intro t
  refine ⟨?_, ?_, ?_⟩
  · rintro ⟨r, ht⟩
    refine ⟨fun d => ?_, fun x separator _ => ?_⟩
    · have hread := readsAs_date ht d []
      rwa [List.append_nil] at hread
    · obtain ⟨more, hmore⟩ : ∃ more, x.chars separator = x.date.chars ++ more :=
        ⟨_, by rw [DateTime.chars, List.append_assoc, List.append_assoc]⟩
      rw [DateTime.text, hmore]
      exact readsAs_date ht x.date more
  · rintro ⟨r, ht⟩ x separator hseparator
    have hascii : separator.toNat < 128 := by
      rcases hseparator with rfl | rfl <;> decide
    have hread := readsAs_dateTime ht x hascii
    refine ⟨fun hoffset => ?_, fun o ho hsmall => ?_⟩
    · rwa [DateTime.settled_eq hoffset] at hread
    · have hsettled : x.settled = { x with offset := some .zero } := by
        rw [DateTime.settled, ho, Option.map_some, Offset.settled, if_pos hsmall]
      rwa [hsettled] at hread
  · intro hdate hdateTime text
    exact readsAs_of_sent (sent_text hdate hdateTime) (sent_text hdate hdateTime)

/-- The last microsecond of the last day of the calendar, at an offset of 5 hours, 30 minutes and
15.25 seconds to the west. -/
def lastMoment : DateTime where
  date := ⟨9999, 12, 31, by decide⟩
  time := ⟨⟨23, by decide⟩, ⟨59, by decide⟩, ⟨59, by decide⟩, ⟨999999, by decide⟩⟩
  offset := some ⟨-19815250000, by decide⟩

/-- The beginning of 1970, at an offset of half a second to the east. -/
def halfSecondEast : DateTime := { World.beginning with offset := some ⟨500000, by decide⟩ }

/-- A leap day is read in a column of nullable dates, a time with an offset to the microsecond in
one of times with a time zone, half a second of an offset is lost, and a column of texts takes the
text of a date as it is. -/
theorem leap_day_read :
    (∃ r, (parse "Nullable(Date)").core = .plain .date r) ∧
    (parse "Nullable(Date)").ReadsAs "2024-02-29" (.date ⟨2024, 2, 29, by decide⟩) ∧
    (∃ r, (parse "LowCardinality(DateTime('UTC'))").core = .plain .dateTime r) ∧
    (parse "LowCardinality(DateTime('UTC'))").ReadsAs "9999-12-31T23:59:59.999999-05:30:15.250000"
      (.dateTime lastMoment) ∧
    (parse "LowCardinality(DateTime('UTC'))").ReadsAs "1970-01-01 00:00:00+00:00:00.500000"
      (.dateTime { World.beginning with offset := some .zero }) ∧
    (parse "String").ReadsAs "2024-02-29" (.text "2024-02-29") := by
  have hdate : parse "Nullable(Date)" = .wrapped .nullable "Nullable(Date)" (.plain .date "Date") := by
    decide +kernel
  have htime : (parse "LowCardinality(DateTime('UTC'))").core = .plain .dateTime "DateTime('UTC')" := by
    decide +kernel
  have hstring : (parse "String").core = .plain .string "String" := by decide +kernel
  have hday : Date.text ⟨2024, 2, 29, by decide⟩ = "2024-02-29" := by decide +kernel
  have hlast : lastMoment.text 'T' = "9999-12-31T23:59:59.999999-05:30:15.250000" := by decide +kernel
  have hhalf : halfSecondEast.text ' ' = "1970-01-01 00:00:00+00:00:00.500000" := by decide +kernel
  have hdateCore : ∃ r, (parse "Nullable(Date)").core = .plain .date r := ⟨"Date", by rw [hdate]; rfl⟩
  refine ⟨hdateCore, ?_, ⟨_, htime⟩, ?_, ?_, ?_⟩
  · rw [← hday]
    exact ((texts_read "Nullable(Date)").1 hdateCore).1 _
  · rw [← hlast]
    refine ((texts_read "LowCardinality(DateTime('UTC'))").2.1 ⟨_, htime⟩ lastMoment 'T' (.inl rfl)).1 ?_
    intro o ho
    obtain rfl := Option.some.inj ho
    exact .inr (by decide)
  · rw [← hhalf]
    exact ((texts_read "LowCardinality(DateTime('UTC'))").2.1 ⟨_, htime⟩ halfSecondEast ' '
      (.inr rfl)).2 _ rfl (by decide)
  · refine (texts_read "String").2.2 (fun r h => ?_) (fun r h => ?_) "2024-02-29"
    · cases hstring.symm.trans h
    · cases hstring.symm.trans h

/-- A statement for one column of times. -/
def oneTime : Statement := Statement.fresh ⟨"t", ["d"]⟩ [.plain .dateTime "DateTime"]

/-- The text of a time whose offset is half a second does not stand for the time: the row gets the
time without the offset. -/
theorem half_second_offset_lost :
    (do (← oneTime.set .text 0 (.text "1970-01-01T00:00:00+00:00:00.500000")).addRow) =
        .ok { oneTime with batch := #[[.dateTime { halfSecondEast with offset := some .zero }]] } ∧
      halfSecondEast.text 'T' = "1970-01-01T00:00:00+00:00:00.500000" ∧
      { halfSecondEast with offset := some .zero } ≠ halfSecondEast ∧
      ¬ (parse "DateTime").ReadsAs (halfSecondEast.text 'T') (.dateTime halfSecondEast) := by
  have htype : parse "DateTime" = .plain .dateTime "DateTime" := by decide +kernel
  have htext : halfSecondEast.text 'T' = "1970-01-01T00:00:00+00:00:00.500000" := by decide +kernel
  have hseparator : 'T'.toNat < 128 := by decide
  have hread : (parse "DateTime").ReadsAs (halfSecondEast.text 'T')
      (.dateTime { halfSecondEast with offset := some .zero }) :=
    readsAs_dateTime (congrArg core htype) halfSecondEast hseparator
  have hplace : oneTime.types[0]? = some (parse "DateTime") := congrArg some htype.symm
  have hrow := hread.alike hplace (by decide)
  have hdiffers : { halfSecondEast with offset := some .zero } ≠ halfSecondEast := by decide
  refine ⟨?_, htext, hdiffers, fun hclaimed => ?_⟩
  · rw [← htext]
    exact hrow
  · have hsame := hrow.symm.trans (hclaimed.alike hplace (by decide))
    have hbatch := congrArg Statement.batch (Except.ok.inj hsame)
    cases hbatch

end ColumnType
end TableLoader
