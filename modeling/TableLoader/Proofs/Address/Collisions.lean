/-
# Settings that share an address

Everything in an address is escaped but hosts and database. The query has no question
mark in it, so where there is one it begins behind the last question mark, and the
address gives back the database and the options. But a database may have a question
mark too. Then one address can belong to two settings: those whose database ends in a
text that is the query of the others, and which have no query themselves
(`Swallows`). There is no other way (`address_eq_iff`), and with several hosts there is
none at all, since every address then has a query.

Key definitions: `ConnectionSettings.Swallows`.
Key theorems: `path_eq_iff`, `parts_of_address`, `address_eq_iff`.
-/
import TableLoader.Proofs.Address.Grammar

namespace TableLoader

open Text.Percent

/-! ### Paths -/

theorem queryText_nil : queryText [] = "" := rfl

theorem queryText_of_ne_nil {query : List (String × String)} (h : query ≠ []) :
    queryText query = "?" ++ encodeQuery query := if_neg h

/-- Behind a database, a query that is there begins at the last question mark. -/
theorem cutLast_path (database : String) {query : List (String × String)} (h : query ≠ []) :
    Text.cutLast '?' (database ++ queryText query).toList =
      some (database.toList, (encodeQuery query).toList) := by
  have hpath : (database ++ queryText query).toList =
      database.toList ++ '?' :: (encodeQuery query).toList := by
    rw [queryText_of_ne_nil h]
    simp
  rw [hpath, Text.cutLast_append (question_not_mem_encodeQuery query)]

/-- Two paths are the same if they consist of the same parts, or if one has no query and its
database ends in the query of the other. -/
theorem path_eq_iff {database database' : String} {query query' : List (String × String)} :
    database' ++ queryText query' = database ++ queryText query ↔
      (database' = database ∧ query' = query) ∨
        (query = [] ∧ query' ≠ [] ∧ database = database' ++ "?" ++ encodeQuery query') ∨
        (query' = [] ∧ query ≠ [] ∧ database' = database ++ "?" ++ encodeQuery query) := by
  by_cases hnil : query = [] <;> by_cases hnil' : query' = []
  · -- no query at all
    subst hnil hnil'
    simp [queryText_nil]
  · -- the right database ends in the left query
    subst hnil
    have hne : ¬ query' = [] := hnil'
    simp only [queryText_of_ne_nil hne, queryText_nil, String.append_empty, hne, and_false,
      false_and, or_false, false_or, not_false_eq_true, true_and, ne_eq, String.append_assoc]
    exact eq_comm
  · -- the left database ends in the right query
    subst hnil'
    have hne : ¬ query = [] := hnil
    have hne' : ¬ ([] : List (String × String)) = query := fun h => hne h.symm
    simp only [queryText_of_ne_nil hne, queryText_nil, String.append_empty, hne, hne', and_false,
      false_and, false_or, not_false_eq_true, true_and, ne_eq, String.append_assoc]
  · -- two queries, each behind the last question mark
    simp only [hnil, hnil', false_and, or_false]
    constructor
    · intro h
      have hcut := cutLast_path database hnil
      rw [← h, cutLast_path database' hnil'] at hcut
      obtain ⟨hdatabase, hquery⟩ := Prod.mk.inj (Option.some.inj hcut)
      exact ⟨String.toList_inj.mp hdatabase, encodeQuery_injective (String.toList_inj.mp hquery)⟩
    · rintro ⟨rfl, rfl⟩
      rfl

/-! ### Settings -/

namespace ConnectionSettings

variable {s s' : ConnectionSettings} {url : String}

/-- Settings with an address have hosts that can be read, and a user and a password that can be
written. -/
theorem parts_of_address (h : s.address = .ok url) : ∃ first others credentials,
    HostPort.read s.firstHost = .ok first ∧
      List.Forall₂ (fun entry h => HostPort.read entry = .ok h) s.otherHosts others ∧
      s.credentials = .ok credentials := by
  unfold address query at h
  cases hfirst : HostPort.read s.firstHost with
  | error e =>
    rw [hfirst] at h
    cases h
  | ok first =>
    cases hcredentials : s.credentials with
    | error e =>
      rw [hfirst, hcredentials] at h
      cases h
    | ok credentials =>
      cases hothers : s.otherHosts.mapM HostPort.read with
      | error e =>
        rw [hfirst, hcredentials, hothers] at h
        cases h
      | ok others => exact ⟨first, others, credentials, rfl, mapM_eq_ok_iff.mp hothers, rfl⟩

/-- The database of `s'` followed by the query of its options is the database of `s`, which has
no options. -/
structure Swallows (s s' : ConnectionSettings) : Prop where
  noOptions : s.properties.entries = []
  options : s'.properties.entries ≠ []
  database : s.database = s'.database ++ "?" ++ encodeQuery s'.properties.entries

theorem hostOptions_eq_nil_iff {others : List HostPort} : hostOptions others = [] ↔ others = [] := by
  unfold hostOptions
  by_cases hnil : others = []
  · simp [hnil]
  · simp [hnil]

/-- Settings that agree on the hosts, the user and the password have the same address exactly if
they agree on the database and the options too, or there is one host only and the database of one
swallows the options of the other. -/
theorem address_eq_iff (hhosts : s'.hosts = s.hosts) (huser : s'.user = s.user)
    (hpassword : s'.password = s.password) (haddress : s.address = .ok url) :
    s'.address = .ok url ↔ (s'.database = s.database ∧ s'.properties = s.properties) ∨
      (s.otherHosts = [] ∧ (Swallows s s' ∨ Swallows s' s)) := by
  obtain ⟨first, others, userPart, hfirst, hothers, huserPart⟩ := parts_of_address haddress
  have hfirst' : HostPort.read s'.firstHost = .ok first := by
    have hhead : s'.firstHost = s.firstHost := by
      unfold firstHost
      simp only [hhosts]
    rw [hhead, hfirst]
  have hothers' : List.Forall₂ (fun entry h => HostPort.read entry = .ok h) s'.otherHosts others := by
    unfold otherHosts
    rw [hhosts]
    exact hothers
  have huserPart' : s'.credentials = .ok userPart := by
    unfold credentials at huserPart ⊢
    rw [huser, hpassword, huserPart]
  have hfixed := address_of_parts hfirst huserPart (query_of_hosts hothers)
  have hfixed' := address_of_parts hfirst' huserPart' (query_of_hosts hothers')
  rw [haddress] at hfixed
  rw [hfixed', Except.ok.inj hfixed, Except.ok.injEq, String.append_right_inj,
    String.append_right_inj, path_eq_iff]
  have hsame : hostOptions others ++ s'.properties.entries =
      hostOptions others ++ s.properties.entries ↔ s'.properties = s.properties := by
    rw [List.append_cancel_left_eq]
    exact ConnectionOptions.ext_iff.symm
  have hone : s.otherHosts = [] ↔ hostOptions others = [] := by
    rw [hostOptions_eq_nil_iff, ← List.length_eq_zero_iff, hothers.length_eq,
      List.length_eq_zero_iff]
  rw [hsame, hone]
  by_cases hnil : hostOptions others = []
  · rw [hnil, List.nil_append, List.nil_append]
    have hleft : Swallows s s' ↔ s.properties.entries = [] ∧ s'.properties.entries ≠ [] ∧
        s.database = s'.database ++ "?" ++ encodeQuery s'.properties.entries :=
      ⟨fun h => ⟨h.noOptions, h.options, h.database⟩, fun h => ⟨h.1, h.2.1, h.2.2⟩⟩
    have hright : Swallows s' s ↔ s'.properties.entries = [] ∧ s.properties.entries ≠ [] ∧
        s'.database = s.database ++ "?" ++ encodeQuery s.properties.entries :=
      ⟨fun h => ⟨h.noOptions, h.options, h.database⟩, fun h => ⟨h.1, h.2.1, h.2.2⟩⟩
    rw [hleft, hright]
    simp only [true_and]
  · -- the query names other hosts, and so it is never empty
    simp only [List.append_eq_nil_iff, hnil, false_and, or_false]

theorem oneHost_ne_nil : ["h"] ≠ [] := List.cons_ne_nil "h" []

/-- A host with a user, a password and options. -/
def hostSettings (database : String) (options : List (String × String)) : ConnectionSettings where
  hosts := ["h"]
  database := database
  user := .text "u"
  password := .text "p"
  properties := ⟨options⟩
  hosts_ne_nil := oneHost_ne_nil

/-- One address belongs to two settings, and the first database swallows the options of the
second. -/
theorem hostSettings_share_address :
    (hostSettings "d?a=b" []).address = .ok "clickhouse://u:p@h:9000/d?a=b" ∧
      ((hostSettings "d" [("a", "b")]).address = .ok "clickhouse://u:p@h:9000/d?a=b" ↔
        ((hostSettings "d" [("a", "b")]).database = (hostSettings "d?a=b" []).database ∧
          (hostSettings "d" [("a", "b")]).properties = (hostSettings "d?a=b" []).properties) ∨
        ((hostSettings "d?a=b" []).otherHosts = [] ∧
          (Swallows (hostSettings "d?a=b" []) (hostSettings "d" [("a", "b")]) ∨
            Swallows (hostSettings "d" [("a", "b")]) (hostSettings "d?a=b" [])))) := by
  have haddress : (hostSettings "d?a=b" []).address = .ok "clickhouse://u:p@h:9000/d?a=b" := by
    rfl
  exact ⟨haddress, address_eq_iff rfl rfl rfl haddress⟩

/-- The address does not tell a database with a query in it from options: it is the same for two
settings that differ in both. -/
theorem database_hides_options :
    (hostSettings "d?a=b" []).address = .ok "clickhouse://u:p@h:9000/d?a=b" ∧
      (hostSettings "d" [("a", "b")]).address = .ok "clickhouse://u:p@h:9000/d?a=b" ∧
      (hostSettings "d?a=b" []).database ≠ (hostSettings "d" [("a", "b")]).database ∧
      (hostSettings "d?a=b" []).properties ≠ (hostSettings "d" [("a", "b")]).properties :=
  ⟨rfl, rfl, by decide, by decide⟩

end ConnectionSettings
end TableLoader
