import ContentHub.Proofs.Lookup.Access
import ContentHub.Proofs.Lookup.TypedView
import Mathlib.Tactic

namespace ContentHub

open Store

def Store.Row.Sound (row : Row) : Prop :=
  ∃ document provider, row.document = .ok document ∧ Provider.ofDocument document = .ok provider ∧
    row.name = provider.name ∧ document.member? "name" = some (.string row.name)

lemma Store.Row.Holds.sound {row : Row} {entry : String × Json} (h : row.Holds entry)
    (hstorable : entry.2.Storable) : row.Sound := by
  obtain ⟨provider, hprovider, hname⟩ := h.named
  refine ⟨entry.2, provider, h.document hstorable, hprovider, hname, ?_⟩
  rw [hname]
  exact Provider.ofDocument_name entry.2 provider hprovider

lemma sound_of_holds {rows : List Row} {documents : Entries Json}
    (h : List.Forall₂ Row.Holds rows documents)
    (hstorable : ∀ entry ∈ documents, entry.2.Storable) : ∀ row ∈ rows, row.Sound := by
  induction h with
  | nil => simp
  | cons hrow _ ih =>
    obtain ⟨hentry, hrest⟩ := List.forall_mem_cons.mp hstorable
    exact List.forall_mem_cons.mpr ⟨hrow.sound hentry, ih hrest⟩

lemma error_of_accepted {α : Type} (answer : List Json → Except Error α) (several : Error)
    (hnone : ∀ e, answer [] ≠ .error e)
    (hone : ∀ document provider, Provider.ofDocument document = .ok provider →
      ∀ e, answer [document] ≠ .error e)
    (hseveral : ∀ documents, 2 ≤ documents.length → answer documents = .error several)
    {documents : List Json} {e : Error}
    (haccepted : ∀ document ∈ documents, ∃ provider, Provider.ofDocument document = .ok provider)
    (h : answer documents = .error e) : e = several ∧ 2 ≤ documents.length := by
  match documents with
  | [] => exact absurd h (hnone e)
  | [document] =>
    obtain ⟨provider, hprovider⟩ := haccepted document List.mem_cons_self
    exact absurd h (hone document provider hprovider e)
  | first :: second :: rest =>
    have hlength : 2 ≤ (first :: second :: rest).length := by simp
    rw [hseveral _ hlength] at h
    exact ⟨(Except.error.inj h).symm, hlength⟩

lemma providerAmong_error {name : String} {documents : List Json} {e : Error}
    (haccepted : ∀ document ∈ documents, ∃ provider, Provider.ofDocument document = .ok provider)
    (h : providerAmong name documents = .error e) :
    e = .integrity (.duplicateProvider name) ∧ 2 ≤ documents.length := by
  refine error_of_accepted (providerAmong name) _ ?_ ?_ ?_ haccepted h
  · simp [providerAmong]
  · intro document provider hprovider e
    simp [providerAmong, hprovider, Except.map]
  · rintro (_ | ⟨_, _ | _⟩) hlength
    · simp at hlength
    · simp at hlength
    · rfl

lemma typeAmong_error {id : String} {documents : List Json} {e : Error}
    (haccepted : ∀ document ∈ documents, ∃ provider, Provider.ofDocument document = .ok provider)
    (h : typeAmong id documents = .error e) :
    e = .integrity (.duplicateType id) ∧ 2 ≤ documents.length := by
  refine error_of_accepted (typeAmong id) _ ?_ ?_ (typeAmong_several id) haccepted h
  · simp [typeAmong]
  · intro document provider hprovider e
    simp [typeAmong_single id document provider hprovider]

structure FailsBySeveral (source : Source) (check : PasswordCheck) (documents : List Json) :
    Prop where
  provider : ∀ name e, (source.ask check fun backend => backend.findProvider name) = .error e →
    e = .integrity (.duplicateProvider name) ∧ 2 ≤ (onesNamed name documents).length
  access : ∀ first second e,
    (source.ask check fun backend => backend.authenticate first second) = .error e →
      ∃ name, first = some name ∧ e = .integrity (.duplicateProvider name) ∧
        2 ≤ (onesNamed name documents).length
  super : ∀ name e, (source.ask check fun backend => backend.isSuper name) = .error e →
    e = .integrity (.duplicateProvider name) ∧ 2 ≤ (onesNamed name documents).length
  type : ∀ id, '\x00' ∉ id.toList → ∀ e,
    (source.ask check fun backend => backend.findType id) = .error e →
      e = .integrity (.duplicateType id) ∧
        2 ≤ (documents.filter (source.reaches (Lookup.typeFilter id))).length ∧
        ('\\' ∉ id.toList → source.ExactKeys id documents →
          2 ≤ (onesTagged id documents).length)

structure Unanswered (source : Source) (check : PasswordCheck) : Prop where
  provider : ∀ name, ∃ fault, (source.ask check fun backend => backend.findProvider name) =
    .error (.storage (.engine fault))
  access : ∀ name password, ∃ fault,
    (source.ask check fun backend => backend.authenticate (some name) (some password)) =
      .error (.storage (.engine fault))
  super : ∀ name, ∃ fault, (source.ask check fun backend => backend.isSuper name) =
    .error (.storage (.engine fault))
  type : ∀ id, ∃ fault, (source.ask check fun backend => backend.findType id) =
    .error (.storage (.engine fault))

lemma unanswered {source : Source} (h : Unmade source) (check : PasswordCheck) :
    Unanswered source check := by
  have hprovider := findProvider_unmade h check
  refine ⟨hprovider, ?_, ?_, findType_unmade h check⟩
  · intro name password
    obtain ⟨fault, hfind⟩ := hprovider name
    exact ⟨fault, by rw [Source.ask_authenticate, hfind]; rfl⟩
  · intro name
    obtain ⟨fault, hfind⟩ := hprovider name
    exact ⟨fault, by rw [Source.ask_isSuper, hfind]; rfl⟩

lemma failsBySeveral {source : Source} {documents : List Json} (h : Stocked source documents)
    (haccepted : ∀ document ∈ documents, ∃ provider, Provider.ofDocument document = .ok provider)
    (check : PasswordCheck) : FailsBySeveral source check documents := by
  have hkept : ∀ kept : Json → Bool, ∀ document ∈ documents.filter kept,
      ∃ provider, Provider.ofDocument document = .ok provider :=
    fun kept document hdocument => haccepted document (List.mem_of_mem_filter hdocument)
  have hprovider : ∀ name e,
      (source.ask check fun backend => backend.findProvider name) = .error e →
        e = .integrity (.duplicateProvider name) ∧ 2 ≤ (onesNamed name documents).length := by
    intro name e he
    rw [findProvider_stocked h check name] at he
    exact providerAmong_error (hkept (named name)) he
  refine ⟨hprovider, ?_, ?_, ?_⟩
  · intro first second e he
    match first, second with
    | some name, some password =>
      rw [Source.ask_authenticate] at he
      exact ⟨name, rfl, hprovider name e (error_of_map he)⟩
    | none, _ =>
      rw [source.ask_authenticate_absent check none _ (Or.inl rfl)] at he
      cases he
    | some _, none =>
      rw [source.ask_authenticate_absent check _ none (Or.inr rfl)] at he
      cases he
  · intro name e he
    rw [Source.ask_isSuper] at he
    exact hprovider name e (error_of_map he)
  · intro id hnul e he
    rw [findType_stocked h check id hnul] at he
    obtain ⟨rfl, hfound⟩ := typeAmong_error (hkept _) he
    refine ⟨rfl, hfound, fun hslash hexact => ?_⟩
    rwa [List.filter_congr (reaches_typeFilter id ⟨hslash, hnul⟩ hexact)] at hfound

section Reachable

variable {path : String} {mint : ℕ → String × String} {start : Files} {session : Session}
  {ledger : Ledger}

lemma rows_sound (h : Represents path mint start session ledger) (hstorable : ledger.Storable)
    (database : Database)
    (hdatabase : session.files.node? (databasePlace path start) = some (.database database)) :
    ∀ row ∈ database.rows, row.Sound := by
  cases hready : ledger.ready with
  | false => exact absurd hdatabase ((h.waiting hready).1 database)
  | true =>
    obtain ⟨-, -, kept, hserving, hholds⟩ := h.serving hready
    obtain rfl := Node.database.inj (Option.some.inj (hserving.kept.symm.trans hdatabase))
    exact sound_of_holds hholds hstorable

/-- In every reachable state all rows are sound, and lookups on a database that was made fail only
because of several documents. A database that was never made answers nothing. -/
theorem reachable_sound (h : Reachable path mint start session ledger)
    (hstorable : ledger.Storable) :
    (∀ database, session.files.node? (databasePlace path start) = some (.database database) →
      ∀ row ∈ database.rows, row.Sound) ∧
      ∀ connection ∈ session.handles, ∀ check,
        let source := Source.disk connection session.files
        (connection.access = .writing ∨ ledger.ready = true →
          FailsBySeveral source check (ledger.documents.map Prod.snd)) ∧
        (ledger.ready = false →
          connection.access = .reading ∧ ledger.documents = [] ∧ Unanswered source check) := by
  have hrepresents := h.represents
  refine ⟨rows_sound hrepresents hstorable, ?_⟩
  intro connection hconnection check
  obtain ⟨handle, hhandle⟩ := List.mem_iff_getElem?.mp hconnection
  have hheld : Held connection session ledger := .intro h handle hhandle
  refine ⟨fun haccess => ?_, fun hwaiting => ?_⟩
  · have hstocked := stocked_of_held hheld hstorable haccess
    refine failsBySeveral hstocked ?_ check
    intro document hdocument
    exact accepted_of_disk hstocked document hdocument
  · have hunmade : Unmade (.disk connection session.files) := .disk hheld hwaiting
    exact ⟨reads_of_unmade hunmade, (hrepresents.waiting hwaiting).2.1, unanswered hunmade check⟩

end Reachable

section Samples

def doubledRun : Session × Ledger :=
  sampleRun [.openWith .writing, .insert 0 nestedDocument, .insert 0 sampleDocument,
    .insert 0 namelessDocument, .insert 0 sampleDocument, .openWith .reading]

lemma documents_doubledRun : doubledRun.2.documents =
    [("i", nestedDocument), ("ii", sampleDocument), ("iiii", sampleDocument)] := by
  rfl

theorem reachable_sound_sample :
    (∀ row ∈ [(⟨"i", "daily", nestedDocument.print, ""⟩ : Row),
        ⟨"ii", "press", sampleDocument.print, "t"⟩,
        ⟨"iiii", "press", sampleDocument.print, "ttt"⟩], row.Sound) ∧
      ∀ e, ((Source.disk sampleConnection doubledRun.1.files).ask Password.check fun backend =>
        backend.findProvider "daily") ≠ .error e := by
  have hstorable : doubledRun.2.Storable := by
    simp [Ledger.Storable, documents_doubledRun, storable_nested, storable_sample]
  have hreachable : Reachable samplePath sampleMint {} doubledRun.1 doubledRun.2 :=
    reachable_sample _
  have hsound := reachable_sound hreachable hstorable
  refine ⟨hsound.1 ⟨_⟩ rfl, ?_⟩
  intro e he
  have hfails := (hsound.2 sampleConnection (by decide +kernel) Password.check).1
    (Or.inr rfl)
  have hseveral := (hfails.provider "daily" e he).2
  have hone : onesNamed "daily" (doubledRun.2.documents.map Prod.snd) = [nestedDocument] := by
    rw [documents_doubledRun]
    decide
  rw [hone] at hseveral
  exact absurd hseveral (by decide)

theorem findType_before_made :
    Reachable samplePath sampleMint blockedFiles blockedRun.1 blockedRun.2 ∧
      blockedRun.1.handles = [sampleConnection] ∧ blockedRun.2.documents = [] ∧
      ((Source.disk sampleConnection blockedRun.1.files).ask Password.check fun backend =>
        backend.findType "essay") = .error (.storage (.engine .noTable)) :=
  ⟨reachable_blockedRun, rfl, rfl, rfl⟩

end Samples

end ContentHub
