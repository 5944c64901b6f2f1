/-
# Dates and times read back

The text of a date is read as the date (`Date.read_chars`), and the text of a local
time, with any character of ASCII between date and time of day, as the time
(`DateTime.read_chars`). The readers take the text apart from the left: a number with
leading zeros is read to its last digit (`readNumber_padded`), and each number of a
time of day tells by what follows it how the rest is read (`readClock_chars`).

The stamps of default values leave the year without leading zeros. From the year 1000
on it has four digits all the same, so that a stamp is the text of a date, or of a
time cut to whole seconds (`Date.toList_stamp`, `DateTime.toList_stamp`).

Key definitions: `DateTime.wholeSeconds`.
Key theorems: `octets_of_ascii`, `readNumber_padded`, `readDay_chars`,
`readClock_chars`, `Date.read_chars`, `DateTime.read_of_readTime`, `DateTime.read_chars`,
`Date.read_stamp`, `DateTime.read_stamp`.
-/
import Mathlib
import TableLoader.Calendar.Iso
import TableLoader.Proofs.Text.Numerals

namespace TableLoader.Calendar

open Number

/-! ### Characters of ASCII -/

theorem utf8EncodeChar_of_ascii {c : Char} (h : c.toNat < 128) :
    (String.utf8EncodeChar c).map (fun b => Char.ofNat b.toNat) = [c] := by
  have hall : ∀ n < 128, (String.utf8EncodeChar (Char.ofNat n)).map
      (fun b => Char.ofNat b.toNat) = [Char.ofNat n] := by
    decide +kernel
  have hc := hall c.toNat h
  rwa [Char.ofNat_toNat] at hc

/-- A text of ASCII is read as it is. -/
theorem octets_of_ascii {s : List Char} (h : ∀ c ∈ s, c.toNat < 128) : octets s = s := by
  unfold octets Text.Percent.utf8
  induction s with
  | nil => rfl
  | cons c s ih =>
    obtain ⟨hc, hs⟩ := List.forall_mem_cons.mp h
    rw [List.flatMap_cons, List.map_append, utf8EncodeChar_of_ascii hc, ih hs]
    rfl

/-! ### Numbers with leading zeros -/

section Padded

variable {width n : Nat}

theorem length_padded (hwidth : 0 < width) (h : n < 10 ^ width) :
    (padded width n).length = width := by
  have hlength : (Nat.toDigits 10 n).length ≤ width :=
    (Nat.length_toDigits_le_iff (by decide) hwidth).mpr h
  simp only [padded, List.length_append, List.length_replicate]
  omega

theorem isDigit_of_mem_padded {c : Char} (h : c ∈ padded width n) : c.isDigit = true := by
  rcases List.mem_append.mp h with hzero | hdigit
  · rw [List.eq_of_mem_replicate hzero]
    rfl
  · exact Nat.isDigit_of_mem_toDigits (by decide) (by decide) hdigit

theorem natOfAscii_padded (width n : Nat) : natOfAscii (padded width n) = n := by
  rw [natOfAscii, natOfDigits_map, padded, Nat.ofDigitChars_append,
    Nat.ofDigitChars_replicate_zero, Nat.mul_zero, Nat.ofDigitChars_ten_toDigits]

theorem readNumber_padded (hwidth : 0 < width) (h : n < 10 ^ width) (rest : List Char) :
    readNumber width (padded width n ++ rest) = some (n, rest) := by
  have hlength := length_padded hwidth h
  have hdigits : (padded width n).all Char.isDigit = true :=
    List.all_eq_true.mpr fun c hc => isDigit_of_mem_padded hc
  simp only [readNumber, List.take_left' hlength, List.drop_left' hlength, hlength, hdigits,
    natOfAscii_padded, and_self, ↓reduceIte]

/-- A number begins with a digit. -/
theorem padded_eq_cons (hwidth : 0 < width) (h : n < 10 ^ width) :
    ∃ c rest, padded width n = c :: rest ∧ c.isDigit = true := by
  cases hpadded : padded width n with
  | nil =>
    have hlength := length_padded hwidth h
    rw [hpadded, List.length_nil] at hlength
    omega
  | cons c rest =>
    exact ⟨c, rest, rfl, isDigit_of_mem_padded (hpadded ▸ List.mem_cons_self)⟩

theorem lt_128_of_isDigit {c : Char} (h : c.isDigit = true) : c.toNat < 128 := by
  have hbound := h
  simp only [Char.isDigit, Bool.and_eq_true, decide_eq_true_eq] at hbound
  have hupper : c.toNat ≤ 57 := hbound.2
  omega

/-- Leading zeros are not needed by a number that has all its digits. -/
theorem padded_of_le (hwidth : 0 < width) (h : 10 ^ width ≤ n) :
    padded (width + 1) n = Nat.toDigits 10 n := by
  have hlong : ¬ (Nat.toDigits 10 n).length ≤ width := fun hshort =>
    absurd ((Nat.length_toDigits_le_iff (by decide) hwidth).mp hshort) (Nat.not_lt.mpr h)
  have hzeros : width + 1 - (Nat.toDigits 10 n).length = 0 := by omega
  rw [padded, hzeros, List.replicate_zero, List.nil_append]

end Padded

/-! ### Dates -/

theorem Date.bounds (d : Date) : d.year < 10 ^ 4 ∧ d.month < 10 ^ 2 ∧ d.day < 10 ^ 2 := by
  have hday : d.day ≤ daysIn d.year d.month := by
    have hvalid := d.valid
    simp only [isDay, Bool.and_eq_true, decide_eq_true_eq] at hvalid
    exact hvalid.2
  have hdays : daysIn d.year d.month ≤ 31 := by
    unfold daysIn
    split
    · split <;> decide
    · split <;> decide
  have hvalid := d.valid
  simp only [isDay, Bool.and_eq_true, decide_eq_true_eq] at hvalid
  omega

/-- The text of a month does not look like the beginning of a week. -/
theorem Date.month_eq_cons (d : Date) : ∃ c more, padded 2 d.month = c :: more ∧ c ≠ 'W' := by
  obtain ⟨c, more, hc, hdigit⟩ := padded_eq_cons (by decide) d.bounds.2.1
  refine ⟨c, more, hc, ?_⟩
  rintro rfl
  cases hdigit

theorem Date.of?_fields (d : Date) : Date.of? d.year d.month d.day = some d := dif_pos d.valid

/-- The text of a date is read as the date, whatever follows it. -/
theorem readDay_chars (d : Date) (rest : List Char) : readDay (d.chars ++ rest) = some d := by
  obtain ⟨hyear, hmonth, hday⟩ := d.bounds
  obtain ⟨c, more, hc, hweek⟩ := d.month_eq_cons
  have htext : d.chars ++ rest =
      padded 4 d.year ++ '-' :: (padded 2 d.month ++ '-' :: (padded 2 d.day ++ rest)) := by
    simp only [Date.chars, List.append_assoc, List.cons_append]
  simp only [htext, readDay, readNumber_padded (by decide) hyear, List.head?_cons, beq_self_eq_true,
    if_true, List.tail_cons, Option.bind_eq_bind, Option.bind_some]
  -- Behind the hyphen comes a week or a month.
  split
  · next heq =>
    rw [hc] at heq
    exact absurd (List.cons.inj heq).1 hweek
  · simp only [readNumber_padded (by decide) hmonth, afterHyphen, afterChar, if_true,
      readNumber_padded (by decide) hday, Option.bind_some, d.of?_fields]

theorem Date.length_chars (d : Date) : d.chars.length = 10 := by
  obtain ⟨hyear, hmonth, hday⟩ := d.bounds
  simp only [Date.chars, List.length_append, List.length_cons, length_padded (by decide) hyear,
    length_padded (by decide) hmonth, length_padded (by decide) hday]

theorem lt_128_of_mem_padded {width n : Nat} {c : Char} (h : c ∈ padded width n) : c.toNat < 128 :=
  lt_128_of_isDigit (isDigit_of_mem_padded h)

theorem Date.ascii_chars (d : Date) : ∀ c ∈ d.chars, c.toNat < 128 := by
  intro c hc
  simp only [Date.chars, List.mem_append, List.mem_cons] at hc
  rcases hc with (hyear | rfl | hmonth) | rfl | hday
  · exact lt_128_of_mem_padded hyear
  · decide
  · exact lt_128_of_mem_padded hmonth
  · decide
  · exact lt_128_of_mem_padded hday

theorem Date.read_chars (d : Date) : Date.read d.chars = some d := by
  have hday := readDay_chars d []
  rw [List.append_nil] at hday
  rw [Date.read, octets_of_ascii d.ascii_chars, readDate, d.length_chars, if_pos (by decide), hday]

/-! ### Times of day -/

section Clock

variable {stop : Char} {colons : Option Bool} {n : Nat}

/-- A number in front of a colon. -/
theorem readFields_colon (h : n < 10 ^ 2) (hcolons : colons.getD true = true) (k : Nat)
    {rest : List Char} (hrest : rest ≠ []) :
    readFields stop colons (k + 1) (padded 2 n ++ ':' :: rest) =
      (readFields stop (some true) k rest).map (.cons n) := by
  have hlong : ¬ (':' :: rest).length ≤ 1 := by
    have := List.length_pos_iff.mpr hrest
    simp only [List.length_cons]
    omega
  simp only [readFields, readNumber_padded (by decide) h, frontOr, decide_true, hcolons,
    Bool.and_self, if_neg hlong, ↓reduceIte, List.tail_cons, Option.bind_eq_bind, Option.bind_some]

/-- The last number. -/
theorem readFields_last (h : n < 10 ^ 2) (k : Nat) :
    readFields stop colons (k + 1) (padded 2 n) = some ⟨[n], 0, stop ≠ endMark⟩ := by
  have hread := readNumber_padded (by decide) h []
  rw [List.append_nil] at hread
  simp only [readFields, hread, frontOr, List.length_nil, Nat.zero_le, ↓reduceIte,
    Option.bind_eq_bind, Option.bind_some]
  rfl

/-- A number in front of a fraction of six digits. -/
theorem readFields_fraction (h : n < 10 ^ 2) (k : Nat) {us : Nat} (hus : us < 10 ^ 6) :
    readFields stop (some true) (k + 1) (padded 2 n ++ '.' :: padded 6 us) =
      some ⟨[n], us, stop ≠ endMark⟩ := by
  have hlength := length_padded (by decide) hus
  have hlong : ¬ ('.' :: padded 6 us).length ≤ 1 := by
    rw [List.length_cons, hlength]
    decide
  have hread := readNumber_padded (by decide) hus []
  rw [List.append_nil] at hread
  have hfraction : readFraction stop (padded 6 us) = some ⟨[], us, stop ≠ endMark⟩ := by
    simp only [readFraction, hlength, Nat.min_self, hread, Nat.sub_self, Option.bind_eq_bind,
      Option.bind_some, List.dropWhile_nil, frontOr]
    rw [Nat.pow_eq, Nat.pow_zero, Nat.mul_one]
    rfl
  simp only [readFields, readNumber_padded (by decide) h, frontOr, if_neg hlong, Option.getD_some,
    Bool.true_and, decide_eq_true_eq, (by decide : ¬ '.' = ':'), true_or, ↓reduceIte,
    List.tail_cons, hfraction, Option.bind_eq_bind, Option.bind_some, Option.map_some, Clock.cons]

/-- The text of a time of day is read to its end. -/
theorem readClock_chars (stop : Char) (t : TimeOfDay) :
    readClock stop (t.chars ++ fractionChars t.microsecond) =
      some ⟨[t.hour, t.minute, t.second], t.microsecond, stop ≠ endMark⟩ := by
  obtain ⟨⟨hour, hhour⟩, ⟨minute, hminute⟩, ⟨second, hsecond⟩, ⟨us, hus⟩⟩ := t
  have htext : TimeOfDay.chars ⟨⟨hour, hhour⟩, ⟨minute, hminute⟩, ⟨second, hsecond⟩, ⟨us, hus⟩⟩ ++
      fractionChars us = padded 2 hour ++
        ':' :: (padded 2 minute ++ ':' :: (padded 2 second ++ fractionChars us)) := by
    simp only [TimeOfDay.chars, List.append_assoc, List.cons_append]
  have hlast : readFields stop (some true) 1 (padded 2 second ++ fractionChars us) =
      some ⟨[second], us, stop ≠ endMark⟩ := by
    unfold fractionChars
    split
    · next hzero =>
      rw [List.append_nil, hzero]
      exact readFields_last (by omega) 0
    · exact readFields_fraction (by omega) 0 hus
  have hnonempty : padded 2 second ++ fractionChars us ≠ [] := by
    obtain ⟨c, more, hc, -⟩ : ∃ c more, padded 2 second = c :: more ∧ c.isDigit = true :=
      padded_eq_cons (by decide) (by omega)
    simp [hc]
  rw [readClock]
  show readFields stop none 3 (TimeOfDay.chars _ ++ fractionChars us) = _
  rw [htext, readFields_colon (by omega) rfl 2 (by simp),
    readFields_colon (by omega) rfl 1 hnonempty, hlast]
  rfl

end Clock

theorem TimeOfDay.of?_fields (t : TimeOfDay) :
    TimeOfDay.of? t.hour t.minute t.second t.microsecond = some t :=
  dif_pos ⟨t.hour.isLt, t.minute.isLt, t.second.isLt, t.microsecond.isLt⟩

/-- The characters of a time of day: digits, colons and a point. -/
theorem TimeOfDay.mem_chars {t : TimeOfDay} {c : Char}
    (h : c ∈ t.chars ++ fractionChars t.microsecond) : c.isDigit = true ∨ c = ':' ∨ c = '.' := by
  have hfraction : c ∈ fractionChars t.microsecond → c.isDigit = true ∨ c = '.' := by
    unfold fractionChars
    split
    · intro hc
      cases hc
    · intro hc
      rcases List.mem_cons.mp hc with rfl | hdigit
      · exact .inr rfl
      · exact .inl (isDigit_of_mem_padded hdigit)
  simp only [TimeOfDay.chars, List.mem_append, List.mem_cons] at h
  rcases h with ((hhour | rfl | hminute) | rfl | hsecond) | hc
  · exact .inl (isDigit_of_mem_padded hhour)
  · exact .inr (.inl rfl)
  · exact .inl (isDigit_of_mem_padded hminute)
  · exact .inr (.inl rfl)
  · exact .inl (isDigit_of_mem_padded hsecond)
  · exact (hfraction hc).imp_right .inr

theorem TimeOfDay.ascii_chars (t : TimeOfDay) :
    ∀ c ∈ t.chars ++ fractionChars t.microsecond, c.toNat < 128 := by
  intro c hc
  rcases TimeOfDay.mem_chars hc with hdigit | rfl | rfl
  · exact lt_128_of_isDigit hdigit
  · decide
  · decide

/-- The text of a time of day does not look like the beginning of an offset. -/
theorem TimeOfDay.not_isOffsetMark (t : TimeOfDay) :
    ∀ c ∈ t.chars ++ fractionChars t.microsecond, (!isOffsetMark c) = true := by
  intro c hc
  rcases TimeOfDay.mem_chars hc with hdigit | rfl | rfl
  · have hmark : ∀ m : Char, m.isDigit = false → c ≠ m := by
      rintro m hm rfl
      rw [hm] at hdigit
      cases hdigit
    simp [isOffsetMark, hmark]
  · decide
  · decide

theorem readTime_chars (t : TimeOfDay) :
    readTime (t.chars ++ fractionChars t.microsecond) = some (t, none) := by
  have htext := List.takeWhile_eq_self_iff.mpr t.not_isOffsetMark
  have hrest := List.dropWhile_eq_nil_iff.mpr t.not_isOffsetMark
  simp only [readTime, htext, hrest, frontOr, readClock_chars, Clock.time?, Clock.get,
    List.getD_cons_zero, List.getD_cons_succ, t.of?_fields, Option.bind_eq_bind, Option.bind_some,
    ne_eq, not_true_eq_false, decide_false, Bool.false_eq_true, ↓reduceIte]
  rfl

/-! ### Dates with a time of day -/

/-- The date of a text in the extended form ends behind its day. -/
theorem dateEnd_chars (d : Date) (separator : Char) (rest : List Char) :
    dateEnd (d.chars ++ separator :: rest) = some 10 := by
  obtain ⟨c, more, hc, hweek⟩ := d.month_eq_cons
  have hyearLength := length_padded (by decide) d.bounds.1
  obtain ⟨tail, htext⟩ : ∃ tail,
      d.chars ++ separator :: rest = padded 4 d.year ++ '-' :: c :: tail := by
    refine ⟨more ++ ('-' :: padded 2 d.day ++ separator :: rest), ?_⟩
    simp only [Date.chars, hc, List.append_assoc, List.cons_append]
  have hlong : (d.chars ++ separator :: rest).length ≠ 7 := by
    rw [List.length_append, d.length_chars]
    omega
  have hhyphen : (d.chars ++ separator :: rest)[4]? = some '-' := by
    rw [htext, List.getElem?_append_right (Nat.le_of_eq hyearLength), hyearLength]
    rfl
  have hmonth' : (d.chars ++ separator :: rest)[5]? = some c := by
    rw [htext, List.getElem?_append_right (by omega), hyearLength]
    rfl
  simp only [dateEnd, if_neg hlong, hhyphen, hmonth', Option.map_some, Option.getD_some,
    decide_true, decide_false, hweek, Bool.false_eq_true, ↓reduceIte]

/-- Behind the date and one character of any kind comes the time of day. -/
theorem DateTime.read_of_readTime {separator : Char} (hseparator : separator.toNat < 128) (d : Date)
    {clock : List Char} (hclock : ∀ c ∈ clock, c.toNat < 128) {time : TimeOfDay}
    {offset : Option Offset} (h : readTime clock = some (time, offset)) :
    DateTime.read (d.chars ++ separator :: clock) = some ⟨d, time, offset⟩ := by
  have hascii : ∀ c ∈ d.chars ++ separator :: clock, c.toNat < 128 :=
    List.forall_mem_append.mpr ⟨d.ascii_chars, List.forall_mem_cons.mpr ⟨hseparator, hclock⟩⟩
  have hday := readDay_chars d []
  rw [List.append_nil] at hday
  have hlong : 10 < (d.chars ++ separator :: clock).length := by
    rw [List.length_append, List.length_cons, d.length_chars]
    omega
  rw [DateTime.read, octets_of_ascii hascii, readDateTime, dateEnd_chars, if_neg (by omega)]
  simp only [Option.bind_eq_bind, Option.bind_some, List.take_left' d.length_chars, hday,
    if_neg (Nat.not_le.mpr hlong), List.drop_left' d.length_chars, dropCharacter,
    if_pos (show separator.toNat < 0x80 from hseparator), h]
  rfl

/-- The text of a local time is read as the time. -/
theorem DateTime.read_chars {separator : Char} (hseparator : separator.toNat < 128) {t : DateTime}
    (hlocal : t.offset = none) : DateTime.read (t.chars separator) = some t := by
  obtain ⟨date, time, offset⟩ := t
  obtain rfl : offset = none := hlocal
  have htext : DateTime.chars separator ⟨date, time, none⟩ =
      date.chars ++ separator :: (time.chars ++ fractionChars time.microsecond) := by
    simp only [DateTime.chars, List.append_assoc, List.cons_append, List.append_nil]
  rw [htext, DateTime.read_of_readTime hseparator date time.ascii_chars (readTime_chars time)]

/-! ### Stamps -/

/-- A local time without its fraction of a second, of which midnight has none. -/
def DateTime.wholeSeconds (t : DateTime) : DateTime where
  date := t.date
  time := { t.time with microsecond := TimeOfDay.midnight.microsecond }
  offset := none

/-- From the year 1000 on, the stamp of a date is its text. -/
theorem Date.toList_stamp {d : Date} (h : 1000 ≤ d.year) : d.stamp.toList = d.chars := by
  have hyear : padded 4 d.year = Nat.toDigits 10 d.year := padded_of_le (by decide) h
  rw [Date.stamp, String.toList_ofList, Date.chars, hyear]

/-- From the year 1000 on, the stamp of a time is its text without the fraction. -/
theorem DateTime.toList_stamp {t : DateTime} (h : 1000 ≤ t.date.year) :
    t.stamp.toList = t.wholeSeconds.chars ' ' := by
  have hfraction : fractionChars t.wholeSeconds.time.microsecond = [] := rfl
  have hyear : padded 4 t.date.year = Nat.toDigits 10 t.date.year :=
    padded_of_le (by decide) h
  rw [chars, hfraction]
  simp only [stamp, String.toList_ofList, wholeSeconds, TimeOfDay.chars, Date.chars, hyear,
    List.append_assoc, List.append_nil, List.cons_append]

/-- The day of loading is stamped and read back. -/
theorem Date.read_stamp {d : Date} (h : 1000 ≤ d.year) :
    Date.read (d.stamp.toList.take 10) = some d := by
  rw [Date.toList_stamp h, List.take_of_length_le (Nat.le_of_eq d.length_chars), d.read_chars]

/-- The time of loading is stamped and read back to the second. -/
theorem DateTime.read_stamp {t : DateTime} (h : 1000 ≤ t.date.year) :
    DateTime.read t.stamp.toList = some t.wholeSeconds := by
  rw [DateTime.toList_stamp h, DateTime.read_chars (by decide) rfl]

end TableLoader.Calendar
