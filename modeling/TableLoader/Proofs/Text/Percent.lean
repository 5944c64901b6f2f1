/-
# Reading percent-encoded text

A reader for what `Text.Percent` writes. `%` and two hexadecimal digits stand for a
byte, every other character for its own UTF-8 bytes, and the bytes are UTF-8 again;
in form encoding `+` is a space, and it is one before the escapes are read, so an
escaped `+` stays a `+`. The reader gives back every text that was encoded
(`decode_encode`, `decodeForm_encodeForm`), and every list of names and values
(`decodeQuery_encodeQuery`), since no separator of addresses and queries stands in an
encoded text (`not_mem_encode`, `not_mem_encodeForm`).

Key definitions: `decode`, `decodeForm`, `decodeQuery`.
Key theorems: `decode_encode`, `decodeForm_encodeForm`, `decodeQuery_encodeQuery`,
`encodeQuery_injective`.
-/
import TableLoader.Proofs.Text.Cut
import TableLoader.Text.Percent

namespace TableLoader.Text.Percent

/-! ### The reader -/

/-- The value of a hexadecimal digit, in upper or lower case. -/
def hexValue? (c : Char) : Option Nat :=
  if 0x30 ≤ c.toNat ∧ c.toNat ≤ 0x39 then some (c.toNat - 0x30)
  else if 0x41 ≤ c.toNat ∧ c.toNat ≤ 0x46 then some (c.toNat - 0x37)
  else if 0x61 ≤ c.toNat ∧ c.toNat ≤ 0x66 then some (c.toNat - 0x57)
  else none

/-- The bytes that a percent-encoded text stands for. -/
def decodeBytes : List Char → Option (List UInt8)
  | [] => some []
  | c :: rest =>
    if c = '%' then
      match rest with
      | high :: low :: rest => do
        let h ← hexValue? high
        let l ← hexValue? low
        return UInt8.ofNat (16 * h + l) :: (← decodeBytes rest)
      | _ => none
    else (decodeBytes rest).map (String.utf8EncodeChar c ++ ·)

/-- The text of UTF-8 bytes. -/
def textOfUtf8 (bytes : List UInt8) : Option String :=
  bytes.toByteArray.utf8Decode?.map fun cs => String.ofList cs.toList

/-- The text that was percent-encoded. -/
def decode (s : List Char) : Option String := (decodeBytes s).bind textOfUtf8

/-- A `+` of form encoding as the space that it stands for. -/
def plusToSpace (c : Char) : Char := if c = '+' then ' ' else c

/-- The text that was form-encoded. -/
def decodeForm (s : List Char) : Option String := decode (s.map plusToSpace)

/-- The name and the value in one part of a query: the name ends at the first equals sign. -/
def decodePair (part : List Char) : Option (String × String) := do
  let (name, value) ← cutFirst '=' part
  return (← decodeForm name, ← decodeForm value)

/-- The names and values of a query, which has one part more than it has ampersands. -/
def decodeQuery (s : List Char) : Option (List (String × String)) :=
  if s = [] then some [] else (s.splitOn '&').mapM decodePair

/-! ### Bytes -/

theorem hexValue?_hexDigit : ∀ n < 16, hexValue? (hexDigit n) = some n := by decide

theorem decodeBytes_escape (b : UInt8) (rest : List Char) :
    decodeBytes (escape b ++ rest) = (decodeBytes rest).map (b :: ·) := by
  have hb : b.toNat < 256 := b.toNat_lt
  have hhigh := hexValue?_hexDigit (b.toNat / 16) (by omega)
  have hlow := hexValue?_hexDigit (b.toNat % 16) (by omega)
  have hbyte : UInt8.ofNat (16 * (b.toNat / 16) + b.toNat % 16) = b := by
    rw [Nat.div_add_mod, UInt8.ofNat_toNat]
  show decodeBytes ('%' :: hexDigit (b.toNat / 16) :: hexDigit (b.toNat % 16) :: rest) = _
  rw [decodeBytes, if_pos rfl, hhigh, hlow]
  show (do return UInt8.ofNat (16 * (b.toNat / 16) + b.toNat % 16) :: (← decodeBytes rest)) = _
  rw [hbyte]
  cases decodeBytes rest <;> rfl

/-- A character that is no `%` stands for its own bytes. -/
theorem decodeBytes_cons {c : Char} (h : c ≠ '%') (rest : List Char) :
    decodeBytes (c :: rest) = (decodeBytes rest).map (String.utf8EncodeChar c ++ ·) :=
  (decodeBytes.eq_def (c :: rest)).trans (if_neg h)

/-- What a check of the numbers below 256 finds holds of every byte. -/
theorem byte_of_all {f : UInt8 → Bool}
    (h : (List.range 256).all (fun n => f (UInt8.ofNat n)) = true) (b : UInt8) :
    f b = true := by
  have hb := List.all_eq_true.mp h b.toNat (List.mem_range.mpr b.toNat_lt)
  rwa [UInt8.ofNat_toNat] at hb

/-- An unreserved byte is the byte of an ASCII character other than `%`. -/
theorem utf8_of_isUnreserved {b : UInt8} (h : isUnreserved b = true) :
    Char.ofNat b.toNat ≠ '%' ∧ String.utf8EncodeChar (Char.ofNat b.toNat) = [b] := by
  have hb := byte_of_all (f := fun b => !isUnreserved b ||
    (Char.ofNat b.toNat ≠ '%' && String.utf8EncodeChar (Char.ofNat b.toNat) = [b]))
    (by decide +kernel) b
  simpa [h] using hb

theorem decodeBytes_encodeByte (b : UInt8) (rest : List Char) :
    decodeBytes (encodeByte b ++ rest) = (decodeBytes rest).map (b :: ·) := by
  unfold encodeByte
  by_cases h : isUnreserved b = true
  · obtain ⟨hpercent, hbytes⟩ := utf8_of_isUnreserved h
    rw [if_pos h, List.singleton_append, decodeBytes_cons hpercent, hbytes]
    rfl
  · rw [if_neg h, decodeBytes_escape]

theorem decodeBytes_encodeBytes : ∀ bs : List UInt8, decodeBytes (encodeBytes bs) = some bs
  | [] => rfl
  | b :: bs => by
    have hcons : encodeBytes (b :: bs) = encodeByte b ++ encodeBytes bs := List.flatMap_cons
    rw [hcons, decodeBytes_encodeByte, decodeBytes_encodeBytes bs, Option.map_some]

/-! ### Texts -/

theorem textOfUtf8_utf8 (s : String) : textOfUtf8 (utf8 s.toList) = some s := by
  have hbytes : (utf8 s.toList).toByteArray = s.toList.utf8Encode := rfl
  unfold textOfUtf8
  rw [hbytes, List.utf8Decode?_utf8Encode]
  simp

/-- A percent-encoded text is read back. -/
theorem decode_encode (s : String) : decode (encode s).toList = some s := by
  unfold decode encode
  rw [String.toList_ofList, decodeBytes_encodeBytes]
  exact textOfUtf8_utf8 s

/-- Characters that mean something in an address or in a query. -/
def separators : List Char := ['/', '?', '#', '@', ':', '&', '=', '+', ',']

/-- No separator stands in an encoded byte. -/
theorem not_mem_encodeByte {c : Char} (hc : c ∈ separators) (b : UInt8) : c ∉ encodeByte b := by
  have hb := byte_of_all (f := fun b => separators.all fun c => c ∉ encodeByte b)
    (by decide +kernel) b
  simpa using List.all_eq_true.mp hb c hc

/-- No separator stands in a percent-encoded text. -/
theorem not_mem_encode {c : Char} (hc : c ∈ separators) (s : String) : c ∉ (encode s).toList := by
  unfold encode encodeBytes
  rw [String.toList_ofList]
  intro hmem
  obtain ⟨b, -, hb⟩ := List.mem_flatMap.mp hmem
  exact not_mem_encodeByte hc b hb

/-- No separator but `+` stands in a form-encoded text. -/
theorem not_mem_encodeForm {c : Char} (hc : c ∈ separators) (hplus : c ≠ '+') (s : String) :
    c ∉ encodeForm s := by
  intro hmem
  obtain ⟨b, -, hb⟩ := List.mem_flatMap.mp hmem
  unfold encodeFormByte at hb
  by_cases hspace : (b == 0x20) = true
  · rw [if_pos hspace] at hb
    exact hplus (List.mem_singleton.mp hb)
  · rw [if_neg hspace] at hb
    exact not_mem_encodeByte hc b hb

/-- As `+` is escaped, the only `+` of a form-encoded byte is a space. -/
theorem decodeBytes_encodeFormByte (b : UInt8) (rest : List Char) :
    decodeBytes ((encodeFormByte b).map plusToSpace ++ rest) =
      (decodeBytes rest).map (b :: ·) := by
  unfold encodeFormByte
  by_cases hspace : (b == 0x20) = true
  · obtain rfl : b = 0x20 := by simpa using hspace
    rw [if_pos hspace]
    show decodeBytes (' ' :: rest) = _
    rw [decodeBytes_cons (by decide)]
    rfl
  · have hsame : (encodeByte b).map plusToSpace = encodeByte b := by
      have hkeep : ∀ c ∈ encodeByte b, plusToSpace c = id c := by
        intro c hc
        refine if_neg ?_
        rintro rfl
        exact not_mem_encodeByte (by decide) b hc
      rw [List.map_congr_left hkeep, List.map_id]
    rw [if_neg hspace, hsame, decodeBytes_encodeByte]

/-- A form-encoded text is read back. -/
theorem decodeForm_encodeForm (s : String) : decodeForm (encodeForm s) = some s := by
  have hbytes : ∀ bs : List UInt8,
      decodeBytes ((bs.flatMap encodeFormByte).map plusToSpace) = some bs := by
    intro bs
    induction bs with
    | nil => rfl
    | cons b bs ih =>
      rw [List.flatMap_cons, List.map_append, decodeBytes_encodeFormByte, ih, Option.map_some]
  unfold decodeForm decode encodeForm
  rw [hbytes]
  exact textOfUtf8_utf8 s

/-! ### Queries -/

/-- One name with its value, as it stands in a query. -/
def encodePair (p : String × String) : List Char := encodeForm p.1 ++ '=' :: encodeForm p.2

theorem toList_encodeQuery (pairs : List (String × String)) :
    (encodeQuery pairs).toList = ['&'].intercalate (pairs.map encodePair) :=
  String.toList_ofList

theorem decodePair_encodePair (p : String × String) : decodePair (encodePair p) = some p := by
  have hname : '=' ∉ encodeForm p.1 := not_mem_encodeForm (by decide) (by decide) p.1
  unfold decodePair encodePair
  rw [cutFirst_append hname]
  show (do return (← decodeForm (encodeForm p.1), ← decodeForm (encodeForm p.2))) = _
  rw [decodeForm_encodeForm, decodeForm_encodeForm]
  rfl

theorem ampersand_not_mem_encodePair (p : String × String) : '&' ∉ encodePair p := by
  have hname : '&' ∉ encodeForm p.1 := not_mem_encodeForm (by decide) (by decide) p.1
  have hvalue : '&' ∉ encodeForm p.2 := not_mem_encodeForm (by decide) (by decide) p.2
  simp [encodePair, hname, hvalue]

theorem not_mem_intercalate {c separator : Char} (hne : c ≠ separator) :
    ∀ parts : List (List Char), (∀ p ∈ parts, c ∉ p) → c ∉ [separator].intercalate parts
  | [], _ => by simp
  | [p], h => by simpa using h p
  | p :: q :: parts, h => by
    have hfirst : c ∉ p := h p List.mem_cons_self
    have hrest := not_mem_intercalate hne (q :: parts)
      fun x hx => h x (List.mem_cons_of_mem p hx)
    rw [List.intercalate_cons_cons]
    simp [hfirst, hne, hrest]

/-- No question mark stands in a query. -/
theorem question_not_mem_encodeQuery (pairs : List (String × String)) :
    '?' ∉ (encodeQuery pairs).toList := by
  have hpair : ∀ p : String × String, '?' ∉ encodePair p := by
    intro p
    have hname : '?' ∉ encodeForm p.1 := not_mem_encodeForm (by decide) (by decide) p.1
    have hvalue : '?' ∉ encodeForm p.2 := not_mem_encodeForm (by decide) (by decide) p.2
    simp [encodePair, hname, hvalue]
  rw [toList_encodeQuery]
  refine not_mem_intercalate (by decide) _ fun part hpart => ?_
  obtain ⟨p, -, rfl⟩ := List.mem_map.mp hpart
  exact hpair p

/-- Names and values leave some text, as each name is followed by an equals sign. -/
theorem encodeQuery_ne_nil {pairs : List (String × String)} (h : pairs ≠ []) :
    (encodeQuery pairs).toList ≠ [] := by
  obtain ⟨p, rest, rfl⟩ := List.exists_cons_of_ne_nil h
  have hpair : encodePair p ≠ [] := by simp [encodePair]
  rw [toList_encodeQuery, List.map_cons]
  cases rest with
  | nil => simpa using hpair
  | cons q rest => simp [List.intercalate_cons_cons]

/-- The names and values of a query are read back, in their order. -/
theorem decodeQuery_encodeQuery (pairs : List (String × String)) :
    decodeQuery (encodeQuery pairs).toList = some pairs := by
  by_cases hnil : pairs = []
  · rw [hnil]
    rfl
  have hparts : (pairs.map encodePair).mapM decodePair = some pairs := by
    clear hnil
    induction pairs with
    | nil => rfl
    | cons p pairs ih =>
      rw [List.map_cons, List.mapM_cons, decodePair_encodePair, ih]
      rfl
  have hsplit : (encodeQuery pairs).toList.splitOn '&' = pairs.map encodePair := by
    rw [toList_encodeQuery]
    refine List.splitOn_intercalate '&' (fun part hpart => ?_) (by simpa using hnil)
    obtain ⟨p, -, rfl⟩ := List.mem_map.mp hpart
    exact ampersand_not_mem_encodePair p
  unfold decodeQuery
  rw [if_neg (encodeQuery_ne_nil hnil), hsplit, hparts]

theorem encodeQuery_injective : Function.Injective encodeQuery := by
  intro pairs pairs' h
  have hread := decodeQuery_encodeQuery pairs
  rw [h, decodeQuery_encodeQuery pairs'] at hread
  exact (Option.some.inj hread).symm

end TableLoader.Text.Percent
