import ContentHub.Proofs.Json.Seen
import ContentHub.Proofs.Lookup.Source
import Mathlib.Tactic

/-!
Looking up a provider by its name. The answer is decided by the documents of that name alone: by
how many there are, and if there is one, by what it says.
-/

namespace ContentHub

open Store

def providerAmong (name : String) : List Json → Except Error (Option Provider)
  | [] => .ok none
  | [document] => (Provider.ofDocument document).map some
  | _ => .error (.integrity (.duplicateProvider name))

lemma providerOf_ofList (name : String) (hits : List Hit) :
    Lookup.providerOf name (.ofList hits) = providerAmong name (hits.map Hit.source) := by
  match hits with
  | [] => rfl
  | [hit] =>
    simp only [Lookup.providerOf, Lookup.onlySource, Hits.ofList, providerAmong, List.map_cons]
    cases Provider.ofDocument hit.source <;> rfl
  | _ :: _ :: _ => rfl

lemma providerAmong_perm (name : String) (one other : List Json) (h : one.Perm other) :
    providerAmong name one = providerAmong name other :=
  eq_of_perm (providerAmong name) _ (fun | _ :: _ :: _, _ => rfl) h

structure ProviderVerdict (name : String) (documents : List Json)
    (answer : Except Error (Option Provider)) : Prop where
  absent : answer = .ok none ↔ onesNamed name documents = []
  only : ∀ document, onesNamed name documents = [document] →
    answer = (Provider.ofDocument document).map some
  several : 2 ≤ (onesNamed name documents).length →
    answer = .error (.integrity (.duplicateProvider name))
  found : ∀ provider, answer = .ok (some provider) → provider.name = name
  faults : ∀ e, answer = .error e → ∃ fault, e = .integrity fault

lemma name_of_named (name : String) (document : Json) (provider : Provider)
    (hnamed : named name document = true) (h : Provider.ofDocument document = .ok provider) :
    provider.name = name := by
  have hmember : document.member? "name" = some (.string name) := by simpa [named] using hnamed
  simpa [Provider.ofDocument_name document provider h] using hmember

lemma verdict_providerAmong (name : String) (documents : List Json) :
    ProviderVerdict name documents (providerAmong name (onesNamed name documents)) := by
  cases hones : onesNamed name documents with
  | nil => exact ⟨by simp [hones, providerAmong], by simp [hones], by simp [hones],
      by simp [providerAmong], by simp [providerAmong]⟩
  | cons document rest =>
    cases rest with
    | nil =>
      have hmem : document ∈ onesNamed name documents := by simp [hones]
      have hnamed : named name document = true := (List.mem_filter.mp hmem).2
      simp only [providerAmong]
      cases hprovider : Provider.ofDocument document with
      | error e =>
        obtain ⟨fault, rfl⟩ := Provider.ofDocument_error document e hprovider
        exact ⟨by simp [hones, Except.map], by simp [hones, hprovider], by simp [hones],
          by simp [Except.map], by simp [Except.map]⟩
      | ok provider =>
        have hname := name_of_named name document provider hnamed hprovider
        exact ⟨by simp [hones, Except.map], by simp [hones, hprovider], by simp [hones],
          by simp [Except.map, hname], by simp [Except.map]⟩
    | cons _ _ => exact ⟨by simp [hones, providerAmong], by simp [hones], fun _ => rfl,
        by simp [providerAmong], by simp [providerAmong]⟩

section Answers

variable {source : Source} {documents : List Json} {name : String}

lemma findProvider_stockedFor (h : StockedFor name source documents) (check : PasswordCheck) :
    source.ask check (fun backend => backend.findProvider name) =
      providerAmong name (onesNamed name documents) := by
  obtain ⟨hits, hsearch, hperm⟩ := search_nameFilter h
  rw [source.ask_findProvider, hsearch, ← providerAmong_perm name _ _ hperm, ← providerOf_ofList]
  rfl

lemma findProvider_stocked (h : Stocked source documents) (check : PasswordCheck)
    (name : String) : source.ask check (fun backend => backend.findProvider name) =
      providerAmong name (onesNamed name documents) :=
  findProvider_stockedFor (h.stockedFor name) check

lemma findProvider_unmade (h : Unmade source) (check : PasswordCheck) (name : String) :
    ∃ fault, (source.ask check fun backend => backend.findProvider name) =
      .error (.storage (.engine fault)) := by
  obtain ⟨fault, hsearch⟩ := search_unmade h (Lookup.nameFilter name)
  exact ⟨fault, by rw [source.ask_findProvider, hsearch]; rfl⟩

lemma findProvider_unseen (h : Unseen source) (check : PasswordCheck) (name : String) :
    (source.ask check fun backend => backend.findProvider name) =
      .error (.storage (.engine .malformedText)) := by
  rw [source.ask_findProvider,
    search_unseen h _ (plain_nameFilter name).whole (quoting_nameFilter name)]
  rfl

lemma findProvider_unread {stored : Entries Json} (h : UnreadFor name source stored)
    (check : PasswordCheck) : ∃ entry ∈ stored, Unread name entry ∧
      (source.ask check fun backend => backend.findProvider name) =
        .error (.storage (.unreadable entry.1)) := by
  obtain ⟨entry, hentry, hunread, hsearch⟩ := search_unread h
  exact ⟨entry, hentry, hunread, by rw [source.ask_findProvider, hsearch]; rfl⟩

end Answers

/-- The documents of a name decide what is found, whatever else is in a source and in which order,
as long as they are given back and the engine sees the others. Otherwise the storage is to blame, as
it is for a database that was never made. -/
theorem findProvider_verdict (check : PasswordCheck) (source : Source) (name : String) :
    let answer := source.ask check fun backend => backend.findProvider name
    (∀ documents, StockedFor name source documents →
      ProviderVerdict name documents answer ∧
        ∀ other others, StockedFor name other others →
          (onesNamed name documents).Perm (onesNamed name others) →
            (other.ask check fun backend => backend.findProvider name) = answer) ∧
      (Unmade source →
        source.reads ∧ ∃ fault, answer = .error (.storage (.engine fault))) ∧
      (Unseen source → answer = .error (.storage (.engine .malformedText))) ∧
      ∀ stored, UnreadFor name source stored →
        ∃ entry ∈ stored, Unread name entry ∧
          answer = .error (.storage (.unreadable entry.1)) := by
  refine ⟨fun documents h => ?_, fun h => ⟨reads_of_unmade h, findProvider_unmade h check name⟩,
    fun h => findProvider_unseen h check name, fun stored h => findProvider_unread h check⟩
  rw [findProvider_stockedFor h check]
  refine ⟨verdict_providerAmong name documents, fun other others ho hperm => ?_⟩
  rw [findProvider_stockedFor ho check, providerAmong_perm name _ _ hperm]

section Samples

def sampleCollection : Collection :=
  ⟨[.null, .object [("name", .whole 3)], .object [("name", .string "press"), ("type", .whole 3)],
    sampleDocument, nestedDocument]⟩

def stockedRun : Session × Ledger :=
  sampleRun [.openWith .writing, .insert 0 sampleDocument,
    .insert 0 nestedDocument, .openWith .reading]

def sampleConnection : Connection :=
  connectionTo samplePath {} .reading

lemma held_stockedRun : Held sampleConnection stockedRun.1 stockedRun.2 :=
  .intro (reachable_sample _) 1 rfl

lemma stocked_stockedRun : Stocked (.disk sampleConnection stockedRun.1.files)
    [sampleDocument, nestedDocument] := by
  have hdocuments : stockedRun.2.documents = [("i", sampleDocument), ("ii", nestedDocument)] := by
    rfl
  have hstorable : stockedRun.2.Storable := by
    simp [Ledger.Storable, hdocuments, storable_sample, storable_nested]
  simpa [hdocuments] using Stocked.disk held_stockedRun rfl hstorable

def deepDocument (name : String) (depth : ℕ) : Json :=
  .object [("deep", Json.inArrays depth .null), ("name", .string name)]

lemma read?_deepDocument (name : String) (depth : ℕ) (h : Json.maxDepth ≤ depth) :
    Json.read? (deepDocument name depth).chars = none :=
  Json.read?_inArrays "deep" depth .null _ h

lemma within_deepDocument (name : String) (depth room : ℕ) :
    (deepDocument name depth).within (room + 1) = decide (depth ≤ room) := by
  simp [deepDocument, Json.within, Json.membersWithin, Json.within_inArrays]

lemma visible_deepDocument (name : String) (depth : ℕ) (hdeep : Json.maxDepth ≤ depth)
    (h : depth < Json.Relaxed.maxDepth) : (deepDocument name depth).Visible := by
  have hread := read?_deepDocument name depth hdeep
  refine Json.visible_of_within _ ?_ (by simp [hread]) ?_
  · have hkeys : ¬"name" < "deep" ∧ "name" ≠ "deep" := by decide
    simp [deepDocument, Json.normal, Json.normalMembers, Json.normal_inArrays, Entries.ofList,
      Entries.insert, hkeys]
  · have hroom : Json.Relaxed.maxDepth = 999 + 1 := rfl
    rw [hroom, within_deepDocument, decide_eq_true_eq]
    omega

lemma unseen_deepDocument (name : String) (depth : ℕ) (h : Json.Relaxed.maxDepth ≤ depth) :
    Json.readOutline? (deepDocument name depth).chars = none := by
  have hroom : Json.Relaxed.maxDepth = 999 + 1 := rfl
  have hdeep : Json.maxDepth ≤ depth := by
    have : Json.maxDepth = 127 := rfl
    omega
  refine Json.unseen_of_not_within _ (read?_deepDocument name depth hdeep) ?_
  rw [hroom, within_deepDocument, decide_eq_false_iff_not]
  omega

def writingConnection : Connection :=
  connectionTo samplePath {} .writing

def besideRun (depth : ℕ) : Session × Ledger :=
  sampleRun [.openWith .writing, .insert 0 sampleDocument, .insert 0 (deepDocument "daily" depth)]

-- whether the deep document is accepted does not depend on how deep it is
lemma documents_besideRun (depth : ℕ) : (besideRun depth).2.documents =
    [("i", sampleDocument), ("ii", deepDocument "daily" depth)] := by
  rfl

def layeredRun : Session × Ledger :=
  besideRun 999

lemma held_layeredRun : Held writingConnection layeredRun.1 layeredRun.2 :=
  .intro (reachable_sample _) 0 rfl

lemma documents_layeredRun : layeredRun.2.documents =
    [("i", sampleDocument), ("ii", deepDocument "daily" 999)] :=
  documents_besideRun 999

def buriedRun : Session × Ledger :=
  besideRun 1000

lemma held_buriedRun : Held writingConnection buriedRun.1 buriedRun.2 :=
  .intro (reachable_sample _) 0 rfl

lemma documents_buriedRun : buriedRun.2.documents =
    [("i", sampleDocument), ("ii", deepDocument "daily" 1000)] :=
  documents_besideRun 1000

def deepRun : Session × Ledger :=
  sampleRun [.openWith .writing, .insert 0 (deepDocument "press" 127)]

lemma held_deepRun : Held writingConnection deepRun.1 deepRun.2 :=
  .intro (reachable_sample _) 0 rfl

lemma documents_deepRun : deepRun.2.documents = [("i", deepDocument "press" 127)] := by
  rfl

lemma stockedFor_layeredRun : StockedFor "press" (.disk writingConnection layeredRun.1.files)
    [sampleDocument, deepDocument "daily" 999] := by
  have hlegible : layeredRun.2.LegibleFor "press" := by
    have hdeep : named "press" (deepDocument "daily" 999) = false := by decide
    constructor
    · simp [documents_layeredRun, storable_sample.visible,
        visible_deepDocument "daily" 999 (by decide) (by decide)]
    · simp [documents_layeredRun, storable_sample, hdeep]
  simpa [documents_layeredRun] using
    StockedFor.disk held_layeredRun rfl hlegible

lemma unseen_buriedRun : Unseen (.disk writingConnection buriedRun.1.files) := by
  refine .disk held_buriedRun rfl ?_
  simp [documents_buriedRun, unseen_deepDocument "daily" 1000 le_rfl]

lemma unreadFor_deepRun : UnreadFor "press" (.disk writingConnection deepRun.1.files)
    [("i", deepDocument "press" 127)] := by
  have hnamed : named "press" (deepDocument "press" 127) = true := by decide
  have hunread : UnreadFor "press" (.disk writingConnection deepRun.1.files)
      deepRun.2.documents := by
    refine .disk held_deepRun rfl ?_ ?_
    · simp [documents_deepRun, visible_deepDocument "press" 127 (by decide) (by decide)]
    · simp [documents_deepRun, Unread, hnamed, read?_deepDocument "press" 127 le_rfl]
  rwa [documents_deepRun] at hunread

theorem findProvider_verdict_sample :
    ((Source.memory sampleCollection).ask Password.check fun backend =>
        backend.findProvider "press") = .error (.integrity (.duplicateProvider "press")) ∧
      ((Source.disk writingConnection layeredRun.1.files).ask Password.check fun backend =>
        backend.findProvider "press") = .ok (some ⟨"press", none, none, []⟩) ∧
      ((Source.disk writingConnection buriedRun.1.files).ask Password.check fun backend =>
        backend.findProvider "press") = .error (.storage (.engine .malformedText)) := by
  refine ⟨?_, ?_, ?_⟩
  · have hverdict := ((findProvider_verdict Password.check (.memory sampleCollection) "press").1 _
      (.memory sampleCollection)).1
    exact hverdict.several (by decide)
  · have hverdict := ((findProvider_verdict Password.check
      (.disk writingConnection layeredRun.1.files) "press").1 _ stockedFor_layeredRun).1
    have hones : onesNamed "press" [sampleDocument, deepDocument "daily" 999] =
        [sampleDocument] := by decide
    rw [hverdict.only sampleDocument hones]
    decide
  · exact (findProvider_verdict Password.check (.disk writingConnection buriedRun.1.files)
      "press").2.2.1 unseen_buriedRun

lemma held_blockedRun : Held sampleConnection blockedRun.1 blockedRun.2 :=
  .intro reachable_blockedRun 0 rfl

/-- One document of the name, and what the storage answers about it before the database is made,
with a document beside it that nests too deep for the engine, and if it nests too deep itself. -/
theorem findProvider_obstructed :
    (Held sampleConnection blockedRun.1 blockedRun.2 ∧ blockedRun.2.documents = [] ∧
      ((Source.disk sampleConnection blockedRun.1.files).ask Password.check fun backend =>
        backend.findProvider "press") = .error (.storage (.engine .noTable))) ∧
    (Held writingConnection buriedRun.1 buriedRun.2 ∧
      onesNamed "press" (buriedRun.2.documents.map Prod.snd) = [sampleDocument] ∧
      ((Source.disk writingConnection buriedRun.1.files).ask Password.check fun backend =>
        backend.findProvider "press") = .error (.storage (.engine .malformedText))) ∧
    Held writingConnection deepRun.1 deepRun.2 ∧
      onesNamed "press" (deepRun.2.documents.map Prod.snd) = [deepDocument "press" 127] ∧
      ((Source.disk writingConnection deepRun.1.files).ask Password.check fun backend =>
        backend.findProvider "press") = .error (.storage (.unreadable "i")) := by
  refine ⟨⟨held_blockedRun, rfl, rfl⟩,
    ⟨held_buriedRun, ?_, findProvider_unseen unseen_buriedRun Password.check "press"⟩,
    held_deepRun, ?_, ?_⟩
  · rw [documents_buriedRun]
    decide
  · rw [documents_deepRun]
    rfl
  · obtain ⟨entry, hentry, -, hanswer⟩ := findProvider_unread unreadFor_deepRun Password.check
    rw [List.mem_singleton.mp hentry] at hanswer
    exact hanswer

end Samples

end ContentHub
