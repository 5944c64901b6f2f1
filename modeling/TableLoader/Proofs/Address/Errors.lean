/-
# Settings without an address

An entry of the host list is refused if the text after its last colon is no integer
(`read_error_iff`). That, or a user or password that is neither text nor bytes, is all
that can be wrong with connection settings: they have an address, or some host is
refused, or there is a fault (`address_error`). If user and password can be written, the
first host that is refused decides (`address_error_iff`).

Key definitions: `HasBadPort`, `FirstBadPort`.
Key theorems: `read_error_iff`, `address_error`, `address_error_iff`.
-/
import TableLoader.Connection.Address
import TableLoader.Proofs.Partition.Errors
import TableLoader.Proofs.Text.Cut

namespace TableLoader

/-- The text after the last colon of the entry is no integer. -/
def HasBadPort (entry : String) : Prop :=
  ∃ host port, (Text.strip entry).toList = host ++ ':' :: port ∧ ':' ∉ port ∧
    Number.readInteger (String.ofList port) = none

/-- The error is that of the first entry whose port is no integer. -/
def FirstBadPort (hosts : List String) (e : Error) : Prop :=
  ∃ before entry after, hosts = before ++ entry :: after ∧ (∀ x ∈ before, ¬ HasBadPort x) ∧
    HasBadPort entry ∧ e = .badHost entry

theorem HostPort.read_error_iff {entry : String} {e : Error} :
    read entry = .error e ↔ HasBadPort entry ∧ e = .badHost entry := by
  unfold read
  dsimp only
  by_cases hcolon : ':' ∈ (Text.strip entry).toList
  · obtain ⟨host, port, hentry, hport⟩ := Text.exists_last_separator hcolon
    have hbad : HasBadPort entry ↔ Number.readInteger (String.ofList port) = none := by
      constructor
      · rintro ⟨host', port', hentry', hport', hnone⟩
        have hcut := Text.cutLast_append hport host
        rw [← hentry, hentry', Text.cutLast_append hport'] at hcut
        rwa [← (Prod.mk.inj (Option.some.inj hcut)).2]
      · exact fun hnone => ⟨host, port, hentry, hport, hnone⟩
    rw [hbad, hentry, Text.cutLast_append hport]
    dsimp only
    cases Number.readInteger (String.ofList port) with
    | none => simp [eq_comm]
    | some n => simp
  · rw [Text.cutLast_eq_none hcolon]
    refine iff_of_false (fun h => nomatch h) ?_
    rintro ⟨⟨host, port, hentry, -⟩, -⟩
    exact hcolon (by simp [hentry])

theorem HostPort.read_ok_iff {entry : String} :
    (∃ h, read entry = .ok h) ↔ ¬ HasBadPort entry := by
  cases hread : read entry with
  | error e => simp [(read_error_iff.mp hread).1]
  | ok h =>
    refine iff_of_true ⟨h, rfl⟩ fun hbad => ?_
    cases hread.symm.trans (read_error_iff.mpr ⟨hbad, rfl⟩)

/-- The first host that is refused ends the reading of hosts. -/
theorem readHosts_error_iff {hosts : List String} {e : Error} :
    hosts.mapM HostPort.read = .error e ↔ FirstBadPort hosts e := by
  rw [mapM_eq_error_iff]
  simp only [FirstBadPort, HostPort.read_ok_iff, HostPort.read_error_iff]

namespace ConnectionSettings

variable {s : ConnectionSettings} {e : Error}

theorem credentials_faults (s : ConnectionSettings) : FaultsOnly s.credentials := by
  have hencode : ∀ c, FaultsOnly (encodeCredential c) := by
    intro c
    cases c with
    | text | bytes => exact faultsOnly_ok _
    | _ => exact faultsOnly_fault _
  unfold credentials
  split
  · exact faultsOnly_ok _
  · refine (hencode _).bind fun user => ?_
    split
    · exact faultsOnly_ok _
    · exact (hencode _).bind fun password => faultsOnly_ok _

/-- A user and a password that are texts can be written. -/
theorem exists_credentials {user password : String} (huser : s.user = .text user)
    (hpassword : s.password = .text password) : ∃ credentials, s.credentials = .ok credentials := by
  unfold credentials
  rw [huser, hpassword]
  split
  · exact ⟨_, rfl⟩
  · split
    · exact ⟨_, rfl⟩
    · exact ⟨_, rfl⟩

theorem hosts_eq (s : ConnectionSettings) : s.hosts = s.firstHost :: s.otherHosts :=
  (List.cons_head_tail s.hosts_ne_nil).symm

/-- If user and password can be written, the settings have no address because of the first host
that is refused. -/
theorem address_error_iff {credentials : String} (h : s.credentials = .ok credentials) :
    s.address = .error e ↔ FirstBadPort s.hosts e := by
  rw [← readHosts_error_iff, s.hosts_eq, List.mapM_cons]
  unfold address query
  rw [h]
  cases HostPort.read s.firstHost with
  | error e' =>
    exact ⟨fun h => congrArg _ (Except.error.inj h), fun h => congrArg _ (Except.error.inj h)⟩
  | ok first =>
    cases s.otherHosts.mapM HostPort.read with
    | error e' =>
      exact ⟨fun h => congrArg _ (Except.error.inj h), fun h => congrArg _ (Except.error.inj h)⟩
    | ok others => exact iff_of_false (fun h => nomatch h) (fun h => nomatch h)

/-- Settings without an address have a host that is refused, or there is a fault. -/
theorem address_error (h : s.address = .error e) :
    (∃ entry, e = .badHost entry) ∨ ∃ f, e = .fault f := by
  cases hcredentials : s.credentials with
  | ok credentials =>
    obtain ⟨-, entry, -, -, -, -, rfl⟩ := (address_error_iff hcredentials).mp h
    exact .inl ⟨entry, rfl⟩
  | error e' =>
    obtain ⟨f, rfl⟩ := s.credentials_faults e' hcredentials
    unfold address at h
    rw [hcredentials] at h
    cases hfirst : HostPort.read s.firstHost with
    | error e' =>
      obtain ⟨-, rfl⟩ := HostPort.read_error_iff.mp hfirst
      rw [hfirst] at h
      exact .inl ⟨_, (Except.error.inj h).symm⟩
    | ok first =>
      rw [hfirst] at h
      exact .inr ⟨f, (Except.error.inj h).symm⟩

end ConnectionSettings
end TableLoader
