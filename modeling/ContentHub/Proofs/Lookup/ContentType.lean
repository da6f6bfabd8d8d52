import ContentHub.Proofs.Lookup.Provider
import Mathlib.Tactic

namespace ContentHub

open Store

def tag? (id : String) (document : Json) : Option Json :=
  (storedType? id document).bind (Json.member? "dcp_type")

def tagged (id : String) (document : Json) : Bool :=
  match tag? id document with
  | some tag => !tag.isNull
  | none => false

def onesTagged (id : String) (documents : List Json) : List Json :=
  documents.filter (tagged id)

lemma admits_typeFilter (id : String) (document : Json) :
    (Lookup.typeFilter id).admits document = tagged id document := by
  have hresolve : resolve ["type", id, "dcp_type"] document = tag? id document := by
    simp only [resolve, tag?, storedType?, Option.bind_assoc]
    cases document.member? "type" with
    | none => rfl
    | some types =>
      cases hentry : types.member? id with
      | none => simp [hentry]
      | some entry => cases htag : entry.member? "dcp_type" <;> simp [hentry, htag]
  simp only [Filter.admits, Lookup.typeFilter, Filter.path, hresolve, tagged]
  cases tag? id document <;> rfl

lemma quoting_typeFilter (id : String) :
    (Lookup.typeFilter id).path.quoting = id.toList.contains '"' := by
  simp [Lookup.typeFilter, Filter.path, Path.quoting]

lemma reaches_of_quote {id : String} (hquote : '"' ∈ id.toList) (document : Json) :
    (Lookup.typeFilter id).reaches document = tagged id document := by
  have hquoting : (Lookup.typeFilter id).path.quoting = true := by
    simpa [quoting_typeFilter] using hquote
  rw [reaches_of_quoting hquoting, admits_typeFilter]

lemma member?_eq_some (key : String) (node value : Json) : node.member? key = some value ↔
    ∃ members, node = .object members ∧ Entries.get? key members = some value := by
  cases node <;> simp [Json.member?]

lemma tagged_iff (id : String) (document : Json) : tagged id document = true ↔
    ∃ members types entry tag, document = .object members ∧
      Entries.get? "type" members = some (.object types) ∧
      Entries.get? id types = some (.object entry) ∧
      Entries.get? "dcp_type" entry = some tag ∧ tag ≠ .null := by
  have htagged : tagged id document = true ↔ ∃ tag, tag? id document = some tag ∧ tag ≠ .null := by
    simp only [tagged]
    cases tag? id document with
    | none => simp
    | some tag => cases tag <;> simp [Json.isNull]
  rw [htagged]
  simp only [tag?, storedType?, Option.bind_eq_some_iff, member?_eq_some]
  constructor
  · rintro ⟨tag, ⟨_, ⟨_, ⟨members, rfl, hmembers⟩, types, rfl, htypes⟩, entry, rfl, hentry⟩, htag⟩
    exact ⟨members, types, entry, tag, rfl, hmembers, htypes, hentry, htag⟩
  · rintro ⟨members, types, entry, tag, rfl, hmembers, htypes, hentry, htag⟩
    exact ⟨tag, ⟨_, ⟨_, ⟨members, rfl, hmembers⟩, types, rfl, htypes⟩, entry, rfl, hentry⟩, htag⟩

lemma storedType?_of_tagged (id : String) (document : Json) (h : tagged id document = true) :
    ∃ entry tag, storedType? id document = some (.object entry) ∧
      Entries.get? "dcp_type" entry = some tag ∧ tag ≠ .null := by
  obtain ⟨members, types, entry, tag, rfl, hmembers, htypes, hentry, htag⟩ :=
    (tagged_iff id document).mp h
  exact ⟨entry, tag, by simp [storedType?, Json.member?, hmembers, htypes], hentry, htag⟩

lemma type?_of_tagged (id : String) (document : Json) (provider : Provider)
    (htagged : tagged id document = true) (h : Provider.ofDocument document = .ok provider) :
    ∃ type tag, provider.type? id = some type ∧ type.id = id ∧ type.tag = some tag ∧
      tag? id document = some (.string tag) := by
  obtain ⟨entry, tag, hentry, htag, hnull⟩ := storedType?_of_tagged id document htagged
  rcases Provider.type?_of_ofDocument document provider id h with
    ⟨hnone, -⟩ | ⟨value, type, hvalue, htype, hwritten⟩
  · cases hentry.symm.trans hnone
  · obtain rfl : Json.object entry = value := Option.some.inj (hentry.symm.trans hvalue)
    cases hwritten with
    | keyed hid htold =>
      have hstands := htold.tag
      rw [htag, stands_given_iff _ _ _ _ hnull] at hstands
      obtain ⟨s, hs, rfl⟩ := hstands
      exact ⟨type, s, htype, hid, hs, by simp [tag?, hentry, Json.member?, htag]⟩

def typeAmong (id : String) : List Json → Except Error (Option ContentType)
  | [] => .ok none
  | [document] => (Provider.ofDocument document).map fun provider => provider.type? id
  | _ => .error (.integrity (.duplicateType id))

lemma typeOf_ofList (id : String) (hits : List Hit) :
    Lookup.typeOf id (.ofList hits) = typeAmong id (hits.map Hit.source) := by
  match hits with
  | [] => rfl
  | [hit] =>
    simp only [Lookup.typeOf, Lookup.onlySource, Hits.ofList, typeAmong, List.map_cons]
    cases Provider.ofDocument hit.source <;> rfl
  | _ :: _ :: _ => rfl

lemma typeAmong_single (id : String) (document : Json) (provider : Provider)
    (h : Provider.ofDocument document = .ok provider) :
    typeAmong id [document] = .ok (provider.type? id) := by
  rw [typeAmong, h]
  rfl

lemma typeAmong_several (id : String) (documents : List Json) (h : 2 ≤ documents.length) :
    typeAmong id documents = .error (.integrity (.duplicateType id)) := by
  match documents, h with
  | _ :: _ :: _, _ => rfl

lemma typeAmong_perm (id : String) (one other : List Json) (h : one.Perm other) :
    typeAmong id one = typeAmong id other :=
  eq_of_perm (typeAmong id) _ (typeAmong_several id) h

lemma findType_memory (collection : Collection) (check : PasswordCheck) (id : String) :
    (Source.memory collection).ask check (fun backend => backend.findType id) =
      typeAmong id (onesTagged id collection.documents) := by
  obtain ⟨hits, hsearch, hsources⟩ := search_memory collection (Lookup.typeFilter id)
  have htagged : collection.documents.filter (Lookup.typeFilter id).admits =
      onesTagged id collection.documents :=
    List.filter_congr fun document _ => admits_typeFilter id document
  rw [Source.ask_findType, hsearch, ← htagged, ← hsources, ← typeOf_ofList]
  rfl

lemma findType_stocked {source : Source} {documents : List Json} (h : Stocked source documents)
    (check : PasswordCheck) (id : String) (hnul : '\x00' ∉ id.toList) :
    source.ask check (fun backend => backend.findType id) =
      typeAmong id (documents.filter (source.reaches (Lookup.typeFilter id))) := by
  have hwhole : (Lookup.typeFilter id).path.Whole := by
    simp [Lookup.typeFilter, Filter.path, Path.Whole, hnul]
  obtain ⟨hits, hsearch, hperm⟩ := search_stocked h _ hwhole
  rw [Source.ask_findType, hsearch, ← typeAmong_perm id _ _ hperm, ← typeOf_ofList]
  rfl

lemma findType_unmade {source : Source} (h : Unmade source) (check : PasswordCheck)
    (id : String) : ∃ fault, (source.ask check fun backend => backend.findType id) =
      .error (.storage (.engine fault)) := by
  obtain ⟨fault, hsearch⟩ := search_unmade h (Lookup.typeFilter id)
  exact ⟨fault, by rw [Source.ask_findType, hsearch]; rfl⟩

structure TypeVerdict (id : String) (documents : List Json)
    (answer : Except Error (Option ContentType)) : Prop where
  absent : answer = .ok none ↔ onesTagged id documents = []
  several : 2 ≤ (onesTagged id documents).length →
    answer = .error (.integrity (.duplicateType id))
  refused : ∀ document e, onesTagged id documents = [document] →
    Provider.ofDocument document = .error e → answer = .error e
  found : ∀ document provider, onesTagged id documents = [document] →
    Provider.ofDocument document = .ok provider → ∃ type tag, answer = .ok (some type) ∧
      provider.type? id = some type ∧ type.id = id ∧ type.tag = some tag ∧
      tag? id document = some (.string tag)

lemma verdict_typeAmong (id : String) (documents : List Json) :
    TypeVerdict id documents (typeAmong id (onesTagged id documents)) := by
  cases hones : onesTagged id documents with
  | nil => exact ⟨by simp [hones, typeAmong], by simp [hones], by simp [hones], by simp [hones]⟩
  | cons document rest =>
    cases rest with
    | cons _ _ =>
      exact ⟨by simp [hones, typeAmong], fun _ => rfl, by simp [hones], by simp [hones]⟩
    | nil =>
      have hmem : document ∈ onesTagged id documents := by simp [hones]
      have htagged : tagged id document = true := (List.mem_filter.mp hmem).2
      have hsame : ∀ other, onesTagged id documents = [other] → document = other :=
        fun other ho => by simpa [hones] using ho
      simp only [typeAmong]
      cases hprovider : Provider.ofDocument document with
      | error e =>
        refine ⟨by simp [hones, Except.map], by simp [hones], ?_, ?_⟩
        · intro other e' ho he
          obtain rfl := hsame other ho
          obtain rfl := Except.error.inj (hprovider.symm.trans he)
          rfl
        · intro other provider ho he
          obtain rfl := hsame other ho
          cases hprovider.symm.trans he
      | ok provider =>
        obtain ⟨type, tag, htype, hid, htag, hstored⟩ :=
          type?_of_tagged id document provider htagged hprovider
        refine ⟨by simp [hones, Except.map, htype], by simp [hones], ?_, ?_⟩
        · intro other e ho he
          obtain rfl := hsame other ho
          cases hprovider.symm.trans he
        · intro other provider' ho he
          obtain rfl := hsame other ho
          obtain rfl := Except.ok.inj (hprovider.symm.trans he)
          exact ⟨type, tag, by simp [Except.map, htype], htype, hid, htag, hstored⟩

/-- The documents that keep an object with a tag under an id decide what a collection answers about
it, whatever its other documents are and in whatever order they come. -/
theorem findType_verdict (check : PasswordCheck) (collection : Collection) (id : String) :
    let answer := (Source.memory collection).ask check fun backend => backend.findType id
    TypeVerdict id collection.documents answer ∧
      ∀ other : Collection,
        (onesTagged id collection.documents).Perm (onesTagged id other.documents) →
          ((Source.memory other).ask check fun backend => backend.findType id) = answer := by
  simp only [findType_memory]
  exact ⟨verdict_typeAmong id collection.documents,
    fun other hperm => (typeAmong_perm id _ _ hperm).symm⟩

section Samples

def namelessDocument : Json :=
  .object [("type", .object [("essay", .object [("dcp_type", .whole 3)])])]

def mixedCollection : Collection :=
  ⟨[.null, .object [("type", .object [("a.b", .object [("dcp_type", .null)])])], nestedDocument,
    namelessDocument,
    .object [("name", .string "press"), ("type", .object [("essay", .string "news")])]]⟩

theorem findType_verdict_sample :
    ((Source.memory mixedCollection).ask Password.check fun backend => backend.findType "a.b") =
        .ok (some ⟨"a.b", some "news", none, []⟩) ∧
      ((Source.memory mixedCollection).ask Password.check fun backend =>
        backend.findType "essay") = .error (.integrity .noName) ∧
      ((Source.memory ⟨[nestedDocument]⟩).ask Password.check fun backend =>
        backend.findType "a.b") = .ok (some ⟨"a.b", some "news", none, []⟩) := by
  have hverdict := findType_verdict Password.check mixedCollection "a.b"
  have hfound : ((Source.memory mixedCollection).ask Password.check fun backend =>
      backend.findType "a.b") = .ok (some ⟨"a.b", some "news", none, []⟩) := by
    obtain ⟨type, tag, hanswer, htype, -⟩ := hverdict.1.found nestedDocument
      ⟨"daily", none, none, [("a.b", ⟨"a.b", some "news", none, []⟩)]⟩ (by decide) (by decide)
    rw [hanswer, ← htype]
    decide
  refine ⟨hfound, ?_, (hverdict.2 ⟨[nestedDocument]⟩ (by decide)).trans hfound⟩
  have hverdict' := (findType_verdict Password.check mixedCollection "essay").1
  exact hverdict'.refused namelessDocument _ (by decide) (by decide)

end Samples

end ContentHub
