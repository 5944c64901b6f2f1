/-
# Hosts and their ports

An entry of a list of hosts is the name of a host, or a name and a port behind a
colon (`NamesHost`). The port is any text of an integer; no such text has a colon in
it, so the last colon of the entry is the one in front of the port, and the entry is
read as what it names (`read_of_namesHost`). In an address host and port stand with
the port written out, and are read back there as well (`readBack_text`).

Key definitions: `IsHostName`, `NamesHost`, `HostPort.readBack`.
Key theorems: `read_of_namesHost`, `not_mem_text`, `readBack_text`.
-/
import Mathlib
import TableLoader.Connection.Address
import TableLoader.Proofs.Text.Integer

namespace TableLoader

/-- The name of a host: it has no blank in it, and no character at which a list of hosts or an
address is cut. -/
structure IsHostName (name : String) : Prop where
  noBlank : ∀ c ∈ name.toList, Text.isBlank c = false
  noCut : ∀ c ∈ name.toList, c ∉ ['/', '?', '#', '@', ':', ',']

/-- The entry names the host with the port: a host alone has the default port. -/
inductive NamesHost : String → HostPort → Prop
  | plain {name : String} : IsHostName name → NamesHost name ⟨name, HostPort.defaultPort⟩
  | ported {name port : String} {n : Int} : IsHostName name →
      Number.readInteger port = some n → NamesHost (name ++ ":" ++ port) ⟨name, n⟩

theorem NamesHost.isHostName {entry : String} {h : HostPort} (hnames : NamesHost entry h) :
    IsHostName h.host := by
  cases hnames with
  | plain hname => exact hname
  | ported hname => exact hname

/-- No colon stands in the text of a port. -/
theorem colon_not_mem_of_readInteger {port : String} {n : Int}
    (h : Number.readInteger port = some n) : ':' ∉ port.toList := by
  have hcolon : ¬ ((Text.digitValue? ':').isSome = true ∨ ':' ∈ ['_', '+', '-'] ∨
      Number.isNumberBlank ':' = true) := by decide
  exact fun hmem => hcolon (Number.mem_of_readInteger h ':' hmem)

namespace HostPort

/-- The host and port that stand in an address. -/
def readBack (s : List Char) : Option HostPort :=
  (Text.cutLast ':' s).bind fun parts =>
    (String.ofList parts.2).toInt?.map fun port => ⟨String.ofList parts.1, port⟩

/-- An entry without blanks around it is read as the host and port that it names. -/
theorem read_of_namesHost {entry : String} {h : HostPort} (hnames : NamesHost entry h)
    (hstrip : Text.strip entry = entry) : read entry = .ok h := by
  unfold read
  dsimp only
  rw [hstrip]
  cases hnames with
  | plain hname =>
    have hcolon : ':' ∉ entry.toList := fun hc => hname.noCut ':' hc (by decide)
    rw [Text.cutLast_eq_none hcolon]
  | @ported name port n hname hport =>
    have hcolon : ':' ∉ port.toList := colon_not_mem_of_readInteger hport
    have hentry : (name ++ ":" ++ port).toList = name.toList ++ ':' :: port.toList := by simp
    rw [hentry, Text.cutLast_append hcolon]
    simp only [String.ofList_toList, hport]

theorem toList_text (h : HostPort) :
    h.text.toList = h.host.toList ++ ':' :: (toString h.port).toList := by
  unfold text
  rw [String.toList_append, String.toList_append, List.append_assoc]
  rfl

/-- No character at which an address is cut, but for the colon, stands in the text of a host and a
port. -/
theorem not_mem_text {h : HostPort} (hname : IsHostName h.host) {c : Char}
    (hc : c ∈ ['/', '?', '#', '@', ',']) : c ∉ h.text.toList := by
  have hclass : ['/', '?', '#', '@', ','].all (fun c =>
      c ∈ ['/', '?', '#', '@', ':', ','] && !c.isDigit && c ≠ '-' && c ≠ ':') = true := by decide
  have hc' := List.all_eq_true.mp hclass c hc
  simp only [Bool.and_eq_true, decide_eq_true_eq, Bool.not_eq_true'] at hc'
  obtain ⟨⟨⟨hcut, hdigit⟩, hminus⟩, hcolon⟩ := hc'
  have hhost : c ∉ h.host.toList := fun hmem => hname.noCut c hmem hcut
  have hport : c ∉ (toString h.port).toList := by
    intro hmem
    rcases Number.mem_toString hmem with htrue | heq
    · exact Bool.false_ne_true (hdigit.symm.trans htrue)
    · exact hminus heq
  rw [toList_text, List.mem_append, List.mem_cons]
  rintro (hmem | rfl | hmem)
  · exact hhost hmem
  · exact hcolon rfl
  · exact hport hmem

/-- Host and port are read back from an address. -/
theorem readBack_text (h : HostPort) : readBack h.text.toList = some h := by
  have hcolon : ':' ∉ (toString h.port).toList := by
    have hdigit : ¬ (':'.isDigit = true ∨ ':' = '-') := by decide
    exact fun hmem => hdigit (Number.mem_toString hmem)
  unfold readBack
  rw [toList_text, Text.cutLast_append hcolon, Option.bind_some, String.ofList_toList,
    String.ofList_toList, Int.toString_eq_repr, Int.toInt?_repr, Option.map_some]

end HostPort
end TableLoader
