import ContentHub.Proofs.Lookup.ContentType
import ContentHub.Proofs.Store.Spelling
import Mathlib.Tactic

/-!
Looking up a type in a database against looking it up among the same documents in memory. Both agree
on ids with a quotation mark and, where no key holds U+0000, on ids without backslash. An id with a
backslash is taken for the key that it spells, which is never the id.
-/

namespace ContentHub

open Store

section Reaches

variable {id : String}

lemma reaches_of_no_quote (hquote : '"' ∉ id.toList) (document : Json) :
    (Lookup.typeFilter id).reaches document =
      (Lookup.typeFilter id).accepts (resolveSpelled ["type", id, "dcp_type"] document) := by
  have hquoting : (Lookup.typeFilter id).path.quoting = false := by
    simpa [quoting_typeFilter] using hquote
  simp only [Filter.reaches, hquoting, Bool.false_eq_true, if_false]
  rfl

lemma reaches_of_spelled (hquote : '"' ∉ id.toList) {key : String} (h : Label.Spelled id key)
    (document : Json) (hclear : KeysClear document) :
    (Lookup.typeFilter id).reaches document = tagged key document := by
  have hpath : List.Forall₂ Label.Spelled ["type", id, "dcp_type"] ["type", key, "dcp_type"] :=
    .cons (spelled_self _ (by decide) (by decide))
      (.cons h (.cons (spelled_self _ (by decide) (by decide)) .nil))
  have haccepts : (Lookup.typeFilter id).accepts = (Lookup.typeFilter key).accepts := by
    funext node
    cases node <;> rfl
  rw [reaches_of_no_quote hquote, resolveSpelled_of_spelled _ _ hpath document hclear, haccepts,
    ← admits_typeFilter]
  rfl

lemma reaches_of_unspelled (hquote : '"' ∉ id.toList) (h : ∀ key, ¬Label.Spelled id key)
    (document : Json) (hclear : KeysClear document) :
    (Lookup.typeFilter id).reaches document = false := by
  rw [reaches_of_no_quote hquote]
  exact congrArg (Lookup.typeFilter id).accepts
    (resolveSpelled_of_unspelled ["type"] ["dcp_type"] id document hclear h)

end Reaches

/-- What a database answers about an id against what a collection of its documents answers. The two
part where the engine reads the id as a string literal, or a stored key up to its U+0000. -/
theorem findType_on_disk (check : PasswordCheck) {connection : Connection} {session : Session}
    {ledger : Ledger} (h : Held connection session ledger) (hstorable : ledger.Storable)
    (haccess : connection.access = .writing ∨ ledger.ready = true) (id : String)
    (hnul : '\x00' ∉ id.toList) :
    let documents := ledger.documents.map Prod.snd
    let disk := (Source.disk connection session.files).ask check fun backend => backend.findType id
    let memory := (Source.memory ⟨documents⟩).ask check fun backend => backend.findType id
    disk = typeAmong id (documents.filter (Lookup.typeFilter id).reaches) ∧
      memory = typeAmong id (onesTagged id documents) ∧
      ('"' ∈ id.toList → disk = memory) ∧
      ('"' ∉ id.toList → (∀ document ∈ documents, KeysClear document) →
        ('\\' ∉ id.toList → disk = memory) ∧
        (∀ key, Label.Spelled id key → disk = typeAmong id (onesTagged key documents) ∧
          (key = id ↔ '\\' ∉ id.toList)) ∧
        ((∀ key, ¬Label.Spelled id key) → disk = .ok none)) := by
  intro documents disk memory
  have hdisk : disk = typeAmong id (documents.filter (Lookup.typeFilter id).reaches) :=
    findType_stocked (stocked_of_held h hstorable haccess) check id hnul
  have hmemory : memory = typeAmong id (onesTagged id documents) :=
    findType_memory ⟨documents⟩ check id
  refine ⟨hdisk, hmemory, ?_, ?_⟩
  · intro hquote
    have hfound : documents.filter (Lookup.typeFilter id).reaches = onesTagged id documents := by
      apply List.filter_congr
      intro document _
      exact reaches_of_quote hquote document
    rw [hdisk, hmemory, hfound]
  · intro hquote hclear
    have hspelled : ∀ key, Label.Spelled id key →
        disk = typeAmong id (onesTagged key documents) := by
      intro key hkey
      have hfound : documents.filter (Lookup.typeFilter id).reaches =
          onesTagged key documents := by
        apply List.filter_congr
        intro document hdocument
        exact reaches_of_spelled hquote hkey document (hclear document hdocument)
      rw [hdisk, hfound]
    refine ⟨?_, fun key hkey => ⟨hspelled key hkey, hkey.eq_iff hnul⟩, ?_⟩
    · intro hslash
      rw [hmemory, hspelled id (spelled_self id hslash hnul)]
    · intro hunspelled
      have hnone : documents.filter (Lookup.typeFilter id).reaches = [] := by
        rw [List.filter_eq_nil_iff]
        intro document hdocument
        rw [reaches_of_unspelled hquote hunspelled document (hclear document hdocument)]
        exact Bool.false_ne_true
      rw [hdisk, hnone, typeAmong]

section Samples

def slashDocument : Json :=
  .object [("name", .string "press"),
    ("type", .object [("a\\b", .object [("dcp_type", .string "news")])])]

lemma storable_slash : slashDocument.Storable :=
  Json.storable_of_readable _ (by decide) (by simp [slashDocument, Json.maxDepth, Json.Readable,
    Json.MembersReadable])

def slashRun : Session × Ledger :=
  sampleRun [.openWith .writing, .insert 0 nestedDocument, .insert 0 slashDocument]

lemma held_slashRun : Held writingConnection slashRun.1 slashRun.2 :=
  .intro (reachable_sample _) 0 rfl

lemma documents_slashRun :
    slashRun.2.documents = [("i", nestedDocument), ("ii", slashDocument)] := by
  rfl

lemma storable_slashRun : slashRun.2.Storable := by
  simp [Ledger.Storable, documents_slashRun, storable_slash, storable_nested]

theorem findType_on_disk_sample :
    ((Source.disk writingConnection slashRun.1.files).ask Password.check fun backend =>
        backend.findType "\\u0061.b") = .ok none ∧
      ((Source.disk writingConnection slashRun.1.files).ask Password.check fun backend =>
        backend.findType "a.b") = .ok (some ⟨"a.b", some "news", none, []⟩) := by
  have hdocuments : slashRun.2.documents.map Prod.snd = [nestedDocument, slashDocument] := by
    simp [documents_slashRun]
  have hclear : ∀ document ∈ slashRun.2.documents.map Prod.snd, KeysClear document := by
    simp [hdocuments, nestedDocument, slashDocument, KeysClear, MembersClear]
  constructor
  · have hanswer := findType_on_disk Password.check held_slashRun storable_slashRun (Or.inl rfl)
      "\\u0061.b" (by decide)
    rw [((hanswer.2.2.2 (by decide) hclear).2.1 "a.b" (by decide)).1, hdocuments]
    decide
  · have hanswer := findType_on_disk Password.check held_slashRun storable_slashRun (Or.inl rfl)
      "a.b" (by decide)
    rw [(hanswer.2.2.2 (by decide) hclear).1 (by decide), hanswer.2.1, hdocuments]
    decide

theorem findType_of_backslash :
    Held writingConnection slashRun.1 slashRun.2 ∧ slashRun.2.Storable ∧
      writingConnection.access = .writing ∧
      slashRun.2.documents.map Prod.snd = [nestedDocument, slashDocument] ∧
      ((Source.disk writingConnection slashRun.1.files).ask Password.check fun backend =>
        backend.findType "a\\b") = .ok none ∧
      ((Source.memory ⟨[nestedDocument, slashDocument]⟩).ask Password.check fun backend =>
        backend.findType "a\\b") = .ok (some ⟨"a\\b", some "news", none, []⟩) :=
  ⟨held_slashRun, storable_slashRun, rfl, by simp [documents_slashRun], by decide +kernel,
    by decide⟩

end Samples

end ContentHub
