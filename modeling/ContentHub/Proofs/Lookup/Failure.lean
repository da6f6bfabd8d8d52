import ContentHub.Proofs.Lookup.Access
import ContentHub.Proofs.Lookup.ContentType
import Mathlib.Tactic

namespace ContentHub

open Store

lemma providerAmong_fault {name : String} {documents : List Json} {e : Error}
    (h : providerAmong name documents = .error e) : ∃ fault, e = .integrity fault := by
  match documents with
  | [] => cases h
  | [document] => exact Provider.ofDocument_error document e (error_of_map h)
  | _ :: _ :: _ => exact ⟨_, (Except.error.inj h).symm⟩

lemma typeAmong_fault {id : String} {documents : List Json} {e : Error}
    (h : typeAmong id documents = .error e) : ∃ fault, e = .integrity fault := by
  match documents with
  | [] => cases h
  | [document] => exact Provider.ofDocument_error document e (error_of_map h)
  | _ :: _ :: _ => exact ⟨_, (Except.error.inj h).symm⟩

namespace Source

def takes : Source → (id : String) → Prop
  | .memory _, _ => True
  | .disk _ _, id => '\x00' ∉ id.toList

inductive Fails (source : Source) (check : PasswordCheck) (e : Error) : Prop
  | provider (name : String)
      (h : (source.ask check fun backend => backend.findProvider name) = .error e)
  | access (name password : Option String)
      (h : (source.ask check fun backend => backend.authenticate name password) = .error e)
  | super (name : String)
      (h : (source.ask check fun backend => backend.isSuper name) = .error e)
  | type (id : String) (hid : source.takes id)
      (h : (source.ask check fun backend => backend.findType id) = .error e)

end Source

def Searches (source : Source) (reason : Error → Prop) (filter : Filter) : Prop :=
  (∃ found, source.search filter = .ok (.ofList found)) ∨
    ∃ e, source.search filter = .error e ∧ reason e

section Fails

variable {source : Source} {check : PasswordCheck} {reason : Error → Prop} {e : Error}

lemma bind_fails {α : Type} {filter : Filter} {answer : Hits → Except Error α}
    (hsearch : Searches source reason filter)
    (hanswer : ∀ found e, answer (.ofList found) = .error e → ∃ fault, e = .integrity fault)
    (h : (source.search filter).bind answer = .error e) :
    (∃ fault, e = .integrity fault) ∨ reason e := by
  rcases hsearch with ⟨found, hfound⟩ | ⟨cause, hcause, hreason⟩
  · rw [hfound] at h
    exact Or.inl (hanswer found e h)
  · rw [hcause] at h
    exact Or.inr (Except.error.inj h ▸ hreason)

lemma findProvider_fails {name : String}
    (hsearch : Searches source reason (Lookup.nameFilter name))
    (h : (source.ask check fun backend => backend.findProvider name) = .error e) :
    (∃ fault, e = .integrity fault) ∨ reason e := by
  rw [Source.ask_findProvider] at h
  refine bind_fails hsearch (fun found cause hcause => ?_) h
  exact providerAmong_fault ((providerOf_ofList name found).symm.trans hcause)

lemma findType_fails {id : String} (hsearch : Searches source reason (Lookup.typeFilter id))
    (h : (source.ask check fun backend => backend.findType id) = .error e) :
    (∃ fault, e = .integrity fault) ∨ reason e := by
  rw [Source.ask_findType] at h
  refine bind_fails hsearch (fun found cause hcause => ?_) h
  exact typeAmong_fault ((typeOf_ofList id found).symm.trans hcause)

lemma fault_or_reason (hname : ∀ name, Searches source reason (Lookup.nameFilter name))
    (htype : ∀ id, source.takes id → Searches source reason (Lookup.typeFilter id))
    (h : source.Fails check e) : (∃ fault, e = .integrity fault) ∨ reason e := by
  cases h with
  | provider name h => exact findProvider_fails (hname name) h
  | super name h =>
    rw [Source.ask_isSuper] at h
    exact findProvider_fails (hname name) (error_of_map h)
  | type id hid h => exact findType_fails (htype id hid) h
  | access name password h =>
    match name, password with
    | some name, some password =>
      rw [Source.ask_authenticate] at h
      exact findProvider_fails (hname name) (error_of_map h)
    | none, password =>
      rw [source.ask_authenticate_absent check none password (Or.inl rfl)] at h
      cases h
    | some name, none =>
      rw [source.ask_authenticate_absent check (some name) none (Or.inr rfl)] at h
      cases h

end Fails

lemma fault_of_memory {collection : Collection} {check : PasswordCheck} {e : Error}
    (h : (Source.memory collection).Fails check e) : ∃ fault, e = .integrity fault := by
  have hsearch : ∀ filter, Searches (.memory collection) (fun _ => False) filter := by
    intro filter
    obtain ⟨found, hfound, -⟩ := search_memory collection filter
    exact Or.inl ⟨found, hfound⟩
  exact (fault_or_reason (fun name => hsearch _) (fun id _ => hsearch _) h).resolve_right id

structure Broken (connection : Connection) (ledger : Ledger) (e : Error) : Prop where
  storage : ∃ fault, e = .storage fault
  blameless : e.isClientFault = false
  unnamed : e.parameter? = none
  reason : (connection.access = .reading ∧ ledger.ready = false) ∨
    ∃ entry ∈ ledger.documents, Json.read? entry.2.chars = none

section Held

variable {connection : Connection} {session : Session} {ledger : Ledger}

lemma searches_held (h : Held connection session ledger) (filter : Filter)
    (hwhole : filter.path.Whole) :
    Searches (.disk connection session.files) (Broken connection ledger) filter := by
  obtain ⟨hreachable, handle, hhandle⟩ := h
  have hrepresents := hreachable.represents
  obtain ⟨access, haccess, rfl⟩ := hrepresents.connection_of_handle hhandle
  cases hready : ledger.ready with
  | false =>
    obtain ⟨later, fault, hask, -⟩ :=
      hrepresents.ask_waiting hready access fun database => database.search filter
    refine Or.inr ⟨_, congrArg Prod.snd hask, ⟨_, rfl⟩, rfl, rfl, Or.inl ⟨?_, hready⟩⟩
    exact (hrepresents.waiting hready).2.2 access (List.mem_of_getElem? haccess)
  | true =>
    obtain ⟨database, hholds, hsearch⟩ := Held.database ⟨hreachable, handle, hhandle⟩ hready
    cases hanswer : database.search filter with
    | ok hits =>
      obtain ⟨found, rfl⟩ := Database.exists_of_search_ok hanswer
      exact Or.inl ⟨found, (hsearch filter).trans hanswer⟩
    | error e =>
      obtain ⟨⟨fault, rfl⟩, hunread⟩ := Database.search_error hwhole hanswer
      exact Or.inr ⟨_, (hsearch filter).trans hanswer, ⟨fault, rfl⟩, rfl, rfl,
        Or.inr ((Database.exists_chars_iff hholds fun chars =>
          Json.read? chars = none).mp hunread)⟩

lemma fault_of_held {check : PasswordCheck} {e : Error} (h : Held connection session ledger)
    (hfails : (Source.disk connection session.files).Fails check e) :
    (∃ fault, e = .integrity fault) ∨ Broken connection ledger e := by
  refine fault_or_reason (fun name => ?_) (fun id hid => ?_) hfails
  · exact searches_held h _ (by simp [Lookup.nameFilter, Filter.path, Path.Whole])
  · have hnul : '\x00' ∉ id.toList := hid
    exact searches_held h _ (by simp [Lookup.typeFilter, Filter.path, Path.Whole, hnul])

lemma findType_unread (check : PasswordCheck) (h : Held connection session ledger)
    (hready : ledger.ready = true)
    (hunread : ∃ entry ∈ ledger.documents, Json.read? entry.2.chars = none) (id : String)
    (hquote : '"' ∈ id.toList) :
    ∃ fault, ((Source.disk connection session.files).ask check fun backend =>
      backend.findType id) = .error (.storage fault) := by
  obtain ⟨database, hholds, hsearch⟩ := h.database hready
  have hquoting : (Lookup.typeFilter id).path.quoting = true := by
    simpa [quoting_typeFilter] using hquote
  obtain ⟨fault, hfails⟩ := Database.search_unread hquoting
    ((Database.exists_chars_iff hholds fun chars => Json.read? chars = none).mpr hunread)
  exact ⟨fault, by rw [Source.ask_findType, hsearch, hfails]; rfl⟩

end Held

end ContentHub
