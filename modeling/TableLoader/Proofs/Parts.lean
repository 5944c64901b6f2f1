/-
# Parts of a configuration

The options whose names begin alike are taken out together, and nothing is lost or put
together. Names are distinct behind their common beginning too, so the options stand one
by one in the order of the configuration (`entries_part`), and they are the options that
were taken out once the beginning is back at their names (`restored_part`). There is
something to take out exactly if some name begins so (`hasPart_iff`).

Key definitions: `Config.partEntries`.
Key theorems: `entries_part`, `restored_part`, `hasPart_iff`, `parts_lossless`.
-/
import Mathlib.Data.List.Nodup
import TableLoader.Config
import TableLoader.Proofs.Text.Cut

namespace TableLoader
namespace Config

variable {config config' : Config} {start : String}

/-- The entries of the options whose names begin with `start`. -/
def partEntries (config : Config) (start : String) : List (String × Cell) :=
  config.entries.filter fun e => Text.startsWith start e.1

theorem part_eq (config : Config) (start : String) (keep : Bool) :
    config.part start keep = .ofList ((config.partEntries start).filterMap fun e =>
      (Text.dropStart? start e.1).map fun rest => (if keep then e.1 else rest, e.2.display)) := by
  rw [part, partEntries, List.filterMap_filter]
  refine congrArg OrderedMap.ofList (List.filterMap_congr fun e _ => ?_)
  rw [Text.startsWith_eq_isSome]
  cases Text.dropStart? start e.1 <;> rfl

theorem partIsWritable_eq (config : Config) (start : String) :
    config.partIsWritable start = (config.partEntries start).all fun e => e.2.isWritable := by
  rw [partIsWritable, partEntries, List.all_filter]

/-- What is read of a part depends on its entries only. -/
theorem writtenPart_congr (h : config'.partEntries start = config.partEntries start)
    (keep : Bool) : config'.writtenPart start keep = config.writtenPart start keep := by
  rw [writtenPart, writtenPart, partIsWritable_eq, partIsWritable_eq, part_eq, part_eq, h]

/-! ### The entries of a part -/

/-- Every option has an entry of its own, also without the beginning of its name. -/
theorem entries_part (config : Config) (start : String) (keep : Bool) :
    (config.part start keep).entries = config.entries.filterMap fun e =>
      (Text.dropStart? start e.1).map fun rest => (if keep then e.1 else rest, e.2.display) := by
  refine OrderedMap.entries_ofList ?_
  have hnames : (config.entries.filterMap fun e => (Text.dropStart? start e.1).map fun rest =>
      (if keep then e.1 else rest, e.2.display)).map Prod.fst =
      (config.entries.map Prod.fst).filterMap fun key =>
        (Text.dropStart? start key).map fun rest => if keep then key else rest := by
    rw [List.map_filterMap, List.filterMap_map]
    refine List.filterMap_congr fun e _ => ?_
    simp only [Option.map_map, Function.comp_def]
  rw [hnames]
  refine List.Nodup.filterMap (fun key key' name hkey hkey' => ?_) config.nodup
  obtain ⟨rest, hrest, hname⟩ := Option.map_eq_some_iff.mp hkey
  obtain ⟨rest', hrest', hname'⟩ := Option.map_eq_some_iff.mp hkey'
  have hsame : (if keep then key else rest) = if keep then key' else rest' :=
    hname.trans hname'.symm
  cases keep with
  | true => exact hsame
  | false =>
    have hrests : rest = rest' := hsame
    rw [Text.dropStart?_eq_some_iff.mp hrest, Text.dropStart?_eq_some_iff.mp hrest', hrests]

/-- With the beginning at their names the options are those that were taken out, in order. -/
theorem restored_part (config : Config) (start : String) (keep : Bool) :
    (config.part start keep).entries.map (fun e => (if keep then e.1 else start ++ e.1, e.2)) =
      (config.partEntries start).map fun e => (e.1, e.2.display) := by
  rw [entries_part, partEntries, List.map_filterMap, ← List.filterMap_eq_map,
    List.filterMap_filter]
  refine List.filterMap_congr fun e _ => ?_
  rw [Text.startsWith_eq_isSome]
  cases hrest : Text.dropStart? start e.1 with
  | none => rfl
  | some rest =>
    cases keep with
    | true => rfl
    | false =>
      have hname : e.1 = start ++ rest := Text.dropStart?_eq_some_iff.mp hrest
      exact congrArg (fun name => some (name, e.2.display)) hname.symm

theorem size_part (config : Config) (start : String) (keep : Bool) :
    (config.part start keep).size = (config.partEntries start).length := by
  have hlength := congrArg List.length (config.restored_part start keep)
  rwa [List.length_map, List.length_map] at hlength

theorem hasPart_iff : config.hasPart start = true ↔ config.partEntries start ≠ [] := by
  rw [hasPart, OrderedMap.keys, List.any_map, List.any_eq_true, partEntries, Ne,
    List.filter_eq_nil_iff]
  push Not
  rfl

theorem writtenPart_eq_ok (h : ∀ e ∈ config.partEntries start, e.2.isWritable = true)
    (keep : Bool) : config.writtenPart start keep = .ok (config.part start keep) := by
  have hall : config.partIsWritable start = true := by
    rw [partIsWritable_eq]
    exact List.all_eq_true.mpr h
  exact if_pos hall

theorem requiredPart_eq (h : ∀ e ∈ config.partEntries start, e.2.isWritable = true)
    (keep : Bool) : config.requiredPart start keep =
      if config.hasPart start then .ok (config.part start keep)
      else .error (.settings "config is empty") := by
  have hread : config.requiredPart start keep = if (config.part start keep).size = 0 then
      .error (.settings "config is empty") else .ok (config.part start keep) := by
    rw [requiredPart, writtenPart_eq_ok h keep]
    rfl
  rw [hread, size_part]
  by_cases hpart : config.partEntries start = []
  · have hnone : ¬ config.hasPart start = true := fun hsome => hasPart_iff.mp hsome hpart
    rw [if_pos (List.length_eq_zero_iff.mpr hpart), if_neg hnone]
  · have hsome : config.hasPart start = true := hasPart_iff.mpr hpart
    rw [if_neg (mt List.length_eq_zero_iff.mp hpart), if_pos hsome]

/-- **Nothing is lost when a part is taken out.** If the values can be written, the options whose
names begin with `start` are read as texts, one by one and in their order. With the beginning of
their names they have the names that they had; without it they get them by putting it back, and
there are as many. Reading them when there has to be one gives the same, and it is an error exactly
if there is none. -/
theorem parts_lossless (h : ∀ e ∈ config.entries, Text.startsWith start e.1 = true →
      e.2.isWritable = true) :
    (∀ keep, config.writtenPart start keep = .ok (config.part start keep)) ∧
    (config.part start true).entries = (config.entries.filter fun e =>
      Text.startsWith start e.1).map (fun e => (e.1, e.2.display)) ∧
    (config.part start false).size = (config.part start true).size ∧
    (config.part start false).entries.map (fun e => (start ++ e.1, e.2)) =
      (config.part start true).entries ∧
    ∀ keep, (config.hasPart start = true ↔ (config.part start keep).entries ≠ []) ∧
      config.requiredPart start keep = if config.hasPart start then
        .ok (config.part start keep) else .error (.settings "config is empty") := by
  have hwritable : ∀ e ∈ config.partEntries start, e.2.isWritable = true := fun e he =>
    h e (List.mem_filter.mp he).1 (List.mem_filter.mp he).2
  have hkept : (config.part start true).entries =
      (config.partEntries start).map fun e => (e.1, e.2.display) :=
    (List.map_id _).symm.trans (config.restored_part start true)
  refine ⟨writtenPart_eq_ok hwritable, hkept, ?_, ?_, fun keep => ⟨?_, ?_⟩⟩
  · rw [size_part, size_part]
  · exact (config.restored_part start false).trans hkept.symm
  · rw [hasPart_iff, ← List.length_pos_iff, ← List.length_pos_iff, ← size_part config start keep]
    rfl
  · exact requiredPart_eq hwritable keep

/-- Options of two kinds, one of which has nothing behind the beginning of its name. -/
def mixedConfig : Config :=
  .ofList [("clickhouse.b", .int 2), ("host", .text "h"), ("clickhouse.", .flag true),
    ("clickhouse.a", .null)]

theorem mixedConfig_lossless :
    (∀ e ∈ mixedConfig.entries, Text.startsWith "clickhouse." e.1 = true →
      e.2.isWritable = true) ∧
    (mixedConfig.part "clickhouse." true).entries =
      [("clickhouse.b", "2"), ("clickhouse.", "True"), ("clickhouse.a", "None")] ∧
    (mixedConfig.part "clickhouse." false).entries = [("b", "2"), ("", "True"), ("a", "None")] ∧
    mixedConfig.requiredPart "clickhouse." false =
      .ok (mixedConfig.part "clickhouse." false) := by
  have hwritable : ∀ e ∈ mixedConfig.entries, Text.startsWith "clickhouse." e.1 = true →
      e.2.isWritable = true := by decide +kernel
  obtain ⟨-, hkept, -, -, hrequired⟩ := parts_lossless hwritable
  have hpart : mixedConfig.hasPart "clickhouse." = true := by decide +kernel
  refine ⟨hwritable, hkept.trans (by decide +kernel), by decide +kernel, ?_⟩
  rw [(hrequired false).2, if_pos hpart]

end Config
end TableLoader
