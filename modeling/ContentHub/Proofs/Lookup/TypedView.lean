import ContentHub.Proofs.Lookup.ContentType
import ContentHub.Proofs.Provider.Acceptance
import Mathlib.Tactic

/-!
Types as providers have them against types as they are looked up. The look-up goes by the documents
and passes over types that are written as arrays, which providers have as well. Apart from these,
and from keys with U+0000 in databases, both agree.
-/

namespace ContentHub

open Store

def typed (id : String) (document : Json) : Bool :=
  match Provider.ofDocument document with
  | .ok provider => ((provider.type? id).bind ContentType.tag).isSome
  | .error _ => false

def onesTyped (id : String) (documents : List Json) : List Json :=
  documents.filter (typed id)

def keepsObject (id : String) (document : Json) : Bool :=
  match storedType? id document with
  | some (.object _) => true
  | _ => false

lemma tagged_of_ofDocument (id : String) (document : Json) (provider : Provider)
    (h : Provider.ofDocument document = .ok provider) :
    tagged id document = (typed id document && keepsObject id document) := by
  simp only [tagged, typed, keepsObject, tag?, h]
  rcases Provider.type?_of_ofDocument document provider id h with
    ⟨hentry, htype⟩ | ⟨value, type, hentry, htype, hwritten⟩
  · simp [hentry, htype]
  · cases hwritten with
    | listed => simp [hentry, Json.member?]
    | @keyed members _ hid htold =>
      have hstands := htold.tag
      simp only [hentry, htype, Option.bind_some, Json.member?, Bool.and_true]
      generalize Entries.get? "dcp_type" members = stored at hstands ⊢
      generalize type.tag = tag at hstands ⊢
      cases hstands with
      | absent | null => rfl
      | given _ hgood =>
        obtain ⟨s, rfl, rfl⟩ := hgood
        rfl

structure TypedVerdict (id : String) (documents : List Json)
    (answer : Except Error (Option ContentType)) : Prop where
  absent : answer = .ok none ↔ onesTyped id documents = []
  found : ∀ document provider, onesTyped id documents = [document] →
    Provider.ofDocument document = .ok provider → answer = .ok (provider.type? id)
  several : 2 ≤ (onesTyped id documents).length →
    answer = .error (.integrity (.duplicateType id))

lemma typed_iff (id : String) (document : Json) : typed id document = true ↔
    ∃ provider type tag, Provider.ofDocument document = .ok provider ∧
      provider.type? id = some type ∧ type.tag = some tag := by
  simp only [typed]
  cases Provider.ofDocument document with
  | error e => simp
  | ok provider =>
    simp only [Option.isSome_iff_exists, Option.bind_eq_some_iff]
    constructor
    · rintro ⟨tag, type, htype, htag⟩
      exact ⟨provider, type, tag, rfl, htype, htag⟩
    · rintro ⟨_, type, tag, hsame, htype, htag⟩
      obtain rfl := Except.ok.inj hsame
      exact ⟨tag, type, htype, htag⟩

lemma verdict_onesTyped (id : String) (documents : List Json) :
    TypedVerdict id documents (typeAmong id (onesTyped id documents)) := by
  rcases hones : onesTyped id documents with _ | ⟨document, _ | ⟨other, rest⟩⟩
  · exact ⟨by simp [hones, typeAmong], by simp [hones], by simp [hones]⟩
  · have hmem : document ∈ onesTyped id documents := by simp [hones]
    obtain ⟨provider, type, -, hprovider, htype, -⟩ :=
      (typed_iff id document).mp (List.mem_filter.mp hmem).2
    rw [typeAmong_single id document provider hprovider, htype]
    refine ⟨by simp [hones], fun other provider' hother hprovider' => ?_, by simp [hones]⟩
    obtain rfl : document = other := by simpa [hones] using hother
    obtain rfl := Except.ok.inj (hprovider.symm.trans hprovider')
    rw [htype]
  · exact ⟨by simp [hones, typeAmong], by simp [hones], fun _ => rfl⟩

lemma onesTyped_of_only_found {documents : List Json} (id : String) (document : Json)
    (provider : Provider) (hmem : document ∈ documents)
    (hprovider : Provider.ofDocument document = .ok provider)
    (h : TypedVerdict id documents (.ok (provider.type? id))) :
    onesTyped id documents = [document] ∨
      (onesTyped id documents = [] ∧ provider.type? id = none) := by
  rcases htyped : onesTyped id documents with _ | ⟨other, _ | ⟨another, rest⟩⟩
  · exact Or.inr ⟨rfl, Except.ok.inj (h.absent.mpr htyped)⟩
  · have hother : other ∈ onesTyped id documents := by simp [htyped]
    obtain ⟨provider', type, tag, hprovider', htype, htag⟩ :=
      (typed_iff id other).mp (List.mem_filter.mp hother).2
    -- the answer has the tag of the other document's type, so this document has one too
    have hsame := Except.ok.inj (h.found other provider' htyped hprovider')
    have hdocument : document ∈ onesTyped id documents := List.mem_filter.mpr ⟨hmem,
      (typed_iff id document).mpr ⟨provider, type, tag, hprovider, hsame.trans htype, htag⟩⟩
    rw [htyped, List.mem_singleton] at hdocument
    rw [hdocument]
    exact Or.inl rfl
  · cases h.several (by simp [htyped])

section Accepted

variable {documents : List Json} (haccepted : ∀ document ∈ documents,
  ∃ provider, Provider.ofDocument document = .ok provider)

include haccepted

lemma typedVerdict_iff (id : String) (found : Json → Bool) :
    TypedVerdict id documents (typeAmong id (documents.filter found)) ↔
      documents.filter found = onesTyped id documents ∨
      (2 ≤ (documents.filter found).length ∧ 2 ≤ (onesTyped id documents).length) ∨
      (onesTyped id documents = [] ∧ ∃ document provider, documents.filter found = [document] ∧
        Provider.ofDocument document = .ok provider ∧ provider.type? id = none) := by
  constructor
  · intro h
    rcases hfound : documents.filter found with _ | ⟨document, _ | ⟨other, rest⟩⟩
    · rw [hfound] at h
      exact Or.inl (h.absent.mp rfl).symm
    · have hmem : document ∈ documents := List.mem_of_mem_filter (hfound ▸ List.mem_cons_self)
      obtain ⟨provider, hprovider⟩ := haccepted document hmem
      rw [hfound, typeAmong_single id document provider hprovider] at h
      rcases onesTyped_of_only_found id document provider hmem hprovider h with
        hones | ⟨hnone, htype⟩
      · exact Or.inl hones.symm
      · exact Or.inr (Or.inr ⟨hnone, document, provider, rfl, hprovider, htype⟩)
    · have hseveral : 2 ≤ (document :: other :: rest).length := by simp
      rw [hfound, typeAmong_several id _ hseveral] at h
      refine Or.inr (Or.inl ⟨hseveral, ?_⟩)
      rcases htyped : onesTyped id documents with _ | ⟨one, _ | ⟨another, others⟩⟩
      · cases h.absent.mpr htyped
      · have hone : one ∈ onesTyped id documents := by simp [htyped]
        obtain ⟨provider, hprovider⟩ := haccepted one (List.mem_of_mem_filter hone)
        cases h.found one provider htyped hprovider
      · simp
  · rintro (hsame | ⟨hfound, htyped⟩ | ⟨htyped, document, provider, hfound, hprovider, htype⟩)
    · rw [hsame]
      exact verdict_onesTyped id documents
    · rw [typeAmong_several id _ hfound, ← typeAmong_several id _ htyped]
      exact verdict_onesTyped id documents
    · have hverdict := verdict_onesTyped id documents
      rw [htyped] at hverdict
      rw [hfound, typeAmong_single id document provider hprovider, htype]
      exact hverdict

lemma onesTagged_of_accepted (id : String) :
    onesTagged id documents = (onesTyped id documents).filter (keepsObject id) := by
  rw [onesTyped, List.filter_filter]
  apply List.filter_congr
  intro document hdocument
  obtain ⟨provider, hprovider⟩ := haccepted document hdocument
  rw [tagged_of_ofDocument id document provider hprovider, Bool.and_comm]

end Accepted

def Source.ExactKeys (source : Source) (id : String) (documents : List Json) : Prop :=
  (∃ collection, source = .memory collection) ∨ '"' ∈ id.toList ∨
    ∀ document ∈ documents, KeysClear document

lemma reaches_typeFilter {source : Source} {documents : List Json} (id : String)
    (hplain : '\\' ∉ id.toList ∧ '\x00' ∉ id.toList) (h : source.ExactKeys id documents) :
    ∀ document ∈ documents,
      source.reaches (Lookup.typeFilter id) document = tagged id document := by
  intro document hdocument
  cases source with
  | memory collection => exact admits_typeFilter id document
  | disk connection files =>
    rcases h with ⟨_, h⟩ | hquote | hclear
    · cases h
    · exact reaches_of_quote hquote document
    · have hpath : (Lookup.typeFilter id).path.Plain := by
        simp [Lookup.typeFilter, Filter.path, Path.Plain, hplain]
      rw [Source.reaches, reaches_of_plain hpath,
        finds_eq_admits _ _ (hclear document hdocument), admits_typeFilter]

/-- When the answer about an id is the one that the providers give. With exact keys it is unless
some document keeps the type as an array; two that keep it as an object are too many anyway. -/
theorem findType_typed (check : PasswordCheck) (source : Source) (id : String)
    (hplain : '\\' ∉ id.toList ∧ '\x00' ∉ id.toList) :
    let answer := source.ask check fun backend => backend.findType id
    (∀ documents, Stocked source documents →
      (∀ document ∈ documents, ∃ provider, Provider.ofDocument document = .ok provider) →
        let found := documents.filter (source.reaches (Lookup.typeFilter id))
        let ones := onesTyped id documents
        answer = typeAmong id found ∧
          (TypedVerdict id documents answer ↔
            found = ones ∨ (2 ≤ found.length ∧ 2 ≤ ones.length) ∨
            (ones = [] ∧ ∃ document provider, found = [document] ∧
              Provider.ofDocument document = .ok provider ∧ provider.type? id = none)) ∧
          (source.ExactKeys id documents →
            found = ones.filter (keepsObject id) ∧
              (TypedVerdict id documents answer ↔
                (∀ document ∈ ones, keepsObject id document = true) ∨
                  2 ≤ (ones.filter (keepsObject id)).length))) ∧
      (Unmade source → source.reads ∧ ∃ fault, answer = .error (.storage (.engine fault))) := by
  refine ⟨?_, fun h => ⟨reads_of_unmade h, findType_unmade h check id⟩⟩
  intro documents h haccepted
  have hiff := typedVerdict_iff haccepted id (source.reaches (Lookup.typeFilter id))
  rw [findType_stocked h check id hplain.2]
  refine ⟨rfl, hiff, ?_⟩
  intro hexact
  have hfound : documents.filter (source.reaches (Lookup.typeFilter id)) =
      (onesTyped id documents).filter (keepsObject id) :=
    (List.filter_congr (reaches_typeFilter id hplain hexact)).trans
      (onesTagged_of_accepted haccepted id)
  refine ⟨hfound, hiff.trans ?_⟩
  rw [hfound, List.filter_eq_self]
  constructor
  · rintro (hobjects | ⟨hseveral, -⟩ | ⟨hnone, document, _, hone, -⟩)
    · exact Or.inl hobjects
    · exact Or.inr hseveral
    · simp [hnone] at hone
  · rintro (hobjects | hseveral)
    · exact Or.inl hobjects
    · exact Or.inr (Or.inl ⟨hseveral, hseveral.trans (List.length_filter_le _ _)⟩)

section Samples

theorem findType_typed_sample :
    ((Source.disk sampleConnection stockedRun.1.files).ask Password.check fun backend =>
        backend.findType "a.b") = .ok (some ⟨"a.b", some "news", none, []⟩) := by
  have hverdict := (findType_typed Password.check (.disk sampleConnection stockedRun.1.files) "a.b"
    (by decide)).1 _ stocked_stockedRun (by
      intro document hdocument
      exact accepted_of_disk stocked_stockedRun document hdocument)
  have hexact : (Source.disk sampleConnection stockedRun.1.files).ExactKeys "a.b"
      [sampleDocument, nestedDocument] :=
    Or.inr (Or.inr (by simp [sampleDocument, nestedDocument, KeysClear, MembersClear]))
  have hright := (hverdict.2.2 hexact).2.mpr (Or.inl (by decide))
  exact hright.found nestedDocument ⟨"daily", none, none, [("a.b", ⟨"a.b", some "news", none, []⟩)]⟩
    (by decide) (by decide)

theorem findType_passes_over_array :
    (∃ provider, Provider.ofDocument listedDocument = .ok provider) ∧
      onesTyped "essay" [listedDocument] = [listedDocument] ∧
      ((Source.memory ⟨[listedDocument]⟩).ask Password.check fun backend =>
        backend.findType "essay") = .ok none :=
  ⟨⟨_, (by decide : Provider.ofDocument listedDocument = .ok ⟨"press", none, none,
    [("essay", ⟨"essay", some "news", some ⟨"texts", "essay"⟩, []⟩)]⟩)⟩, by decide, by decide⟩

end Samples

end ContentHub
