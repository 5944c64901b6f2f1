/-
# Times with an offset read back

The size of an offset is a time of day (`Offset.clock`), and is written and read as
one, without the seconds where they are zero. Behind its sign, the text of an offset
is read to its end (`readOffset_chars`); the sign ends the time of day in front of
it, so that the text of a time with an offset is read part by part
(`DateTime.read_text`).

What is read is the time that was written, except for an offset of less than a
second, which counts as none (`DateTime.settled`).

Key definitions: `Offset.clock`, `Offset.settled`, `DateTime.settled`.
Key theorems: `readOffset_chars`, `readTime_offset`, `DateTime.read_text`,
`DateTime.settled_eq`.
-/
import TableLoader.Proofs.Calendar.Reading

namespace TableLoader.Calendar

/-! ### The size of an offset -/

namespace Offset

/-- The size of an offset, as a time of day. -/
def clock (o : Offset) : TimeOfDay where
  hour := ⟨o.microseconds.natAbs / 1000000 / 3600, by
    have hbounded := o.bounded
    simp only [dayLength] at hbounded
    omega⟩
  minute := ⟨o.microseconds.natAbs / 1000000 / 60 % 60, Nat.mod_lt _ (by decide)⟩
  second := ⟨o.microseconds.natAbs / 1000000 % 60, Nat.mod_lt _ (by decide)⟩
  microsecond := ⟨o.microseconds.natAbs % 1000000, Nat.mod_lt _ (by decide)⟩

/-- The hours, minutes and seconds are the whole seconds of the offset. -/
theorem clock_seconds (o : Offset) :
    (o.clock.hour : Nat) * 3600 + o.clock.minute * 60 + o.clock.second =
      o.microseconds.natAbs / 1000000 := by
  simp only [clock]
  omega

/-- No offset. -/
def zero : Offset := ⟨0, by decide⟩

/-- The offset as it is read: less than a second is none. -/
def settled (o : Offset) : Offset := if o.microseconds.natAbs < 1000000 then zero else o

theorem settled_eq {o : Offset} (h : o.microseconds = 0 ∨ 1000000 ≤ o.microseconds.natAbs) :
    o.settled = o := by
  obtain ⟨us, hbounded⟩ := o
  unfold settled
  split
  · next hsmall =>
    obtain rfl : us = 0 := h.resolve_right (Nat.not_le.mpr hsmall)
    rfl
  · rfl

theorem of?_microseconds (o : Offset) : Offset.of? o.microseconds = some o := dif_pos o.bounded

/-- The sign of an offset. -/
def sign (o : Offset) : Char := if o.microseconds < 0 then '-' else '+'

theorem sign_cases (o : Offset) : o.sign = '-' ∧ o.microseconds < 0 ∨
    o.sign = '+' ∧ 0 ≤ o.microseconds := by
  unfold sign
  split
  · next h => exact .inl ⟨rfl, h⟩
  · next h => exact .inr ⟨rfl, Int.not_lt.mp h⟩

/-- Behind its sign an offset is written as a time of day, up to the last part that is not
zero, or to the minutes. -/
theorem chars_eq (o : Offset) : o.chars = o.sign ::
    if (o.clock.second : Nat) = 0 ∧ (o.clock.microsecond : Nat) = 0 then
      padded 2 o.clock.hour ++ ':' :: padded 2 o.clock.minute
    else o.clock.chars ++ fractionChars o.clock.microsecond := by
  unfold chars sign clock TimeOfDay.chars
  by_cases hzero : o.microseconds.natAbs / 1000000 % 60 = 0 ∧ o.microseconds.natAbs % 1000000 = 0
  · simp only [if_pos hzero, List.append_nil, List.cons_append]
  · simp only [if_neg hzero, List.append_assoc, List.cons_append]

theorem ascii_chars (o : Offset) : ∀ c ∈ o.chars, c.toNat < 128 := by
  have hsign : o.sign.toNat < 128 := by
    rcases o.sign_cases with ⟨h, -⟩ | ⟨h, -⟩ <;> rw [h] <;> decide
  rw [chars_eq]
  refine List.forall_mem_cons.mpr ⟨hsign, ?_⟩
  split
  · refine List.forall_mem_append.mpr ⟨fun c hc => lt_128_of_mem_padded hc,
      List.forall_mem_cons.mpr ⟨by decide, fun c hc => lt_128_of_mem_padded hc⟩⟩
  · exact o.clock.ascii_chars

end Offset

/-! ### Reading an offset -/

/-- Hours and minutes alone are read to their end. -/
theorem readClock_minutes (stop : Char) {hour minute : Nat} (hhour : hour < 10 ^ 2)
    (hminute : minute < 10 ^ 2) :
    readClock stop (padded 2 hour ++ ':' :: padded 2 minute) =
      some ⟨[hour, minute], 0, stop ≠ endMark⟩ := by
  have hnonempty : padded 2 minute ≠ [] := by
    obtain ⟨c, more, hc, -⟩ : ∃ c more, padded 2 minute = c :: more ∧ c.isDigit = true :=
      padded_eq_cons (by decide) hminute
    simp [hc]
  rw [readClock, readFields_colon hhour rfl 2 hnonempty, readFields_last hminute 1]
  rfl

/-- What is read behind the sign of an offset are the parts of its size. -/
theorem exists_readClock (o : Offset) (stop : Char) : ∃ c sized, o.chars = o.sign :: sized ∧
    readClock stop sized = some c ∧ c.get 0 = o.clock.hour ∧ c.get 1 = o.clock.minute ∧
      c.get 2 = o.clock.second ∧ c.microsecond = o.clock.microsecond ∧
      c.leftOver = decide (stop ≠ endMark) := by
  rw [o.chars_eq]
  split
  · next hzero =>
    have hhour : o.clock.hour.val < 10 ^ 2 := by omega
    have hminute : o.clock.minute.val < 10 ^ 2 := by omega
    exact ⟨_, _, rfl, readClock_minutes stop hhour hminute, rfl, rfl, hzero.1.symm, hzero.2.symm, rfl⟩
  · exact ⟨_, _, rfl, readClock_chars stop o.clock, rfl, rfl, rfl, rfl, rfl⟩

/-- The text of an offset is read as the offset, if it is none or not less than a second. -/
theorem readOffset_chars (o : Offset) : readOffset o.chars = some o.settled := by
  obtain ⟨c, sized, htext, hread, hhour, hminute, hsecond, hmicrosecond, hleft⟩ :=
    exists_readClock o endMark
  have hseconds : c.get 0 * 3600 + c.get 1 * 60 + c.get 2 = o.microseconds.natAbs / 1000000 := by
    rw [hhour, hminute, hsecond, o.clock_seconds]
  have hus : c.microsecond = o.microseconds.natAbs % 1000000 := hmicrosecond
  have hmark : o.sign ≠ 'Z' := by
    rcases o.sign_cases with ⟨h, -⟩ | ⟨h, -⟩ <;> rw [h] <;> decide
  rw [htext]
  simp only [readOffset, hread, hleft, hseconds, hus, Option.bind_eq_bind, Option.bind_some,
    ne_eq, not_true_eq_false, decide_false, Bool.false_eq_true, ↓reduceIte]
  unfold Offset.settled
  by_cases hsmall : o.microseconds.natAbs < 1000000
  · have hnone : o.microseconds.natAbs / 1000000 = 0 := Nat.div_eq_of_lt hsmall
    simp only [hnone, hsmall, ↓reduceIte]
    split <;> rfl
  · have hsome : o.microseconds.natAbs / 1000000 ≠ 0 := by omega
    have hsize : o.microseconds.natAbs / 1000000 * 1000000 + o.microseconds.natAbs % 1000000 =
        o.microseconds.natAbs := Nat.div_add_mod' _ _
    simp only [hsome, hsmall, hsize, ↓reduceIte]
    rw [← o.of?_microseconds]
    congr 1
    rcases o.sign_cases with ⟨hsign, hneg⟩ | ⟨hsign, hnonneg⟩
    · rw [hsign, if_pos rfl]
      omega
    · rw [hsign, if_neg (by decide)]
      omega

/-! ### Times with an offset -/

/-- The sign of an offset ends the time of day in front of it. -/
theorem readTime_offset (t : TimeOfDay) (o : Offset) :
    readTime (t.chars ++ fractionChars t.microsecond ++ o.chars) = some (t, some o.settled) := by
  have hoffset := readOffset_chars o
  have hmark : isOffsetMark o.sign = true := by
    rcases o.sign_cases with ⟨h, -⟩ | ⟨h, -⟩ <;> rw [h] <;> decide
  rw [o.chars_eq] at hoffset ⊢
  simp only [readTime, List.takeWhile_append_of_pos t.not_isOffsetMark,
    List.dropWhile_append_of_pos t.not_isOffsetMark, List.takeWhile_cons, List.dropWhile_cons, hmark,
    Bool.not_true, Bool.false_eq_true, ↓reduceIte, List.append_nil, readClock_chars, Clock.time?,
    Clock.get, List.getD_cons_zero, List.getD_cons_succ, t.of?_fields, Option.bind_eq_bind,
    Option.bind_some, reduceCtorEq, hoffset]
  rfl

/-- The time as it is read: an offset of less than a second counts as none. -/
def DateTime.settled (t : DateTime) : DateTime := { t with offset := t.offset.map Offset.settled }

/-- A time is read as it was written if its offset is none or not less than a second. -/
theorem DateTime.settled_eq {t : DateTime} (h : ∀ o, t.offset = some o →
    o.microseconds = 0 ∨ 1000000 ≤ o.microseconds.natAbs) : t.settled = t := by
  obtain ⟨date, time, offset⟩ := t
  cases offset with
  | none => rfl
  | some o => rw [settled, Option.map_some, Offset.settled_eq (h o rfl)]

/-- The text of a time, with any character of ASCII behind its date, is read as the time. -/
theorem DateTime.read_text {separator : Char} (hseparator : separator.toNat < 128) (t : DateTime) :
    DateTime.read (t.chars separator) = some t.settled := by
  obtain ⟨date, time, offset⟩ := t
  cases offset with
  | none => exact DateTime.read_chars hseparator rfl
  | some o =>
    have htext : DateTime.chars separator ⟨date, time, some o⟩ = date.chars ++
        separator :: (time.chars ++ fractionChars time.microsecond ++ o.chars) := by
      simp only [DateTime.chars, List.append_assoc, List.cons_append]
    have hascii : ∀ c ∈ time.chars ++ fractionChars time.microsecond ++ o.chars, c.toNat < 128 :=
      List.forall_mem_append.mpr ⟨time.ascii_chars, o.ascii_chars⟩
    rw [htext, DateTime.read_of_readTime hseparator date hascii (readTime_offset time o)]
    rfl

end TableLoader.Calendar
