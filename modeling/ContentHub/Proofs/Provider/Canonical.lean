import ContentHub.Proofs.Command.Run
import ContentHub.Proofs.Json.Normal
import ContentHub.Proofs.Lookup.Provider
import ContentHub.Proofs.Provider.Document
import Mathlib.Tactic

/-!
The canonical document of a provider. Reading it gives the provider back, with the ids that it does
not write down, so two providers have one canonical document only if they are the same. What is
shown of a provider is the text of its canonical document, and can be imported again.
-/

namespace ContentHub

lemma SearchIndex.written_toJson (index : SearchIndex) :
    SearchIndex.Written index.toJson index :=
  .keyed rfl rfl

namespace ContentType

lemma told_toJson (type : ContentType) :
    Told (type.toJson.member? "dcp_type") (type.toJson.member? "index")
      (type.toJson.member? "input_preprocessors") type := by
  have htag : type.toJson.member? "dcp_type" = type.tag.map Json.string := by
    simp [toJson, Json.member?, Entries.get?_append, get?_memberIfSome, Entries.get?]
  have hindex : type.toJson.member? "index" = type.index.map SearchIndex.toJson := by
    simp [toJson, Json.member?, Entries.get?_append, get?_memberIfSome, Entries.get?]
  have hstages : type.toJson.member? "input_preprocessors" =
      some (.array (type.stages.map fun spec => .object spec.members)) := by
    simp [toJson, Json.member?, Entries.get?_append, get?_memberIfSome, Entries.get?]
  rw [htag, hindex, hstages]
  refine ⟨?_, ?_, .given (fun h => by cases h) rfl⟩
  · exact stands_map _ Json.string (fun _ h => by cases h) (fun _ => rfl) type.tag
  · exact stands_map _ SearchIndex.toJson (fun _ h => by cases h) SearchIndex.written_toJson
      type.index

lemma written_toJson (id : String) (type : ContentType) (hid : type.id = id) :
    Written id type.toJson type :=
  .keyed hid type.told_toJson

lemma allWritten_toJson (types : Entries ContentType)
    (hids : ∀ entry ∈ types, entry.2.id = entry.1) :
    AllWritten (.object (types.map fun entry => (entry.1, entry.2.toJson))) types := by
  refine ⟨_, rfl, ?_⟩
  rw [List.forall₂_map_left_iff, List.forall₂_same]
  intro entry hentry
  exact ⟨rfl, written_toJson entry.1 entry.2 (hids entry hentry)⟩

lemma Written.id_eq {id : String} {value : Json} {type : ContentType} (h : Written id value type) :
    type.id = id := by
  cases h with
  | keyed hid => exact hid
  | listed hid => exact hid

lemma AllWritten.id_eq {value : Json} {types : Entries ContentType} (h : AllWritten value types) :
    ∀ entry ∈ types, entry.2.id = entry.1 := by
  obtain ⟨members, -, hmembers⟩ := h
  induction hmembers with
  | nil => simp
  | cons hentry _ ih =>
    refine List.forall_mem_cons.mpr ⟨?_, ih⟩
    rw [hentry.1, hentry.2.id_eq]

end ContentType

namespace Provider

lemma id_of_ofDocument (document : Json) (provider : Provider)
    (h : ofDocument document = .ok provider) : ∀ entry ∈ provider.types, entry.2.id = entry.1 := by
  have htypes := ((ofDocument_eq_ok document provider).mp h).types
  generalize document.member? "type" = stored at htypes
  generalize provider.types = types at htypes ⊢
  cases htypes with
  | absent | null => simp
  | given _ hwritten => exact hwritten.id_eq

lemma told_toDocument (provider : Provider)
    (hids : ∀ entry ∈ provider.types, entry.2.id = entry.1) :
    Told (fun key => provider.toDocument.member? key) provider := by
  have hhash : provider.toDocument.member? "pwd_hash" = provider.passwordHash.map Json.string := by
    simp [toDocument, Json.member?, Entries.get?_append, get?_memberIfSome, Entries.get?]
  have hsuper : provider.toDocument.member? "super_provider" =
      provider.superProvider.map Json.bool := by
    simp [toDocument, Json.member?, Entries.get?_append, get?_memberIfSome, Entries.get?]
  have htypes : provider.toDocument.member? "type" =
      some (.object (provider.types.map fun entry => (entry.1, entry.2.toJson))) := by
    simp [toDocument, Json.member?, Entries.get?_append, get?_memberIfSome, Entries.get?]
  refine ⟨rfl, ?_, ?_, ?_⟩
  · rw [hhash]
    exact stands_map _ Json.string (fun _ h => by cases h) (fun _ => rfl) provider.passwordHash
  · rw [hsuper]
    exact stands_map _ Json.bool (fun _ h => by cases h) (fun _ => rfl) provider.superProvider
  · rw [htypes]
    exact .given (fun h => by cases h) (ContentType.allWritten_toJson provider.types hids)

lemma ofDocument_toDocument (provider : Provider)
    (hids : ∀ entry ∈ provider.types, entry.2.id = entry.1) :
    ofDocument provider.toDocument = .ok provider :=
  (ofDocument_eq_ok _ _).mpr (told_toDocument provider hids)

section Fits

open Json (Fits)

variable {decimal? : Json.DecimalReader} {room : ℕ}

lemma fits_of_stages {stages : Option Json} {specs : List StageSpec}
    (h : Stands (fun value specs => value = .array (specs.map fun spec => .object spec.members)) []
      stages specs) (hfits : ∀ value, stages = some value → Fits decimal? (room + 1) value) :
    ∀ spec ∈ specs, Fits decimal? room (.object spec.members) := by
  cases h with
  | absent | null => simp
  | @given value _ hvalue hstages =>
    have hitems := hfits value rfl
    rw [hstages, Json.fits_array_iff] at hitems
    exact fun spec hspec => hitems _ (List.mem_map_of_mem hspec)

lemma fits_of_written {id : String} {value : Json} {type : ContentType}
    (h : ContentType.Written id value type) (hfits : Fits decimal? (room + 2) value) :
    ∀ spec ∈ type.stages, Fits decimal? room (.object spec.members) := by
  -- in both forms the stages are two levels below the type, as in what is written for it
  cases h with
  | keyed hid htold => exact fits_of_stages htold.stages fun value hvalue => hfits.member? hvalue
  | listed hid hlength htold =>
    refine fits_of_stages htold.stages fun value hvalue => ?_
    exact (Json.fits_array_iff _).mp hfits value (List.mem_of_getElem? hvalue)

lemma fits_index (index : SearchIndex) : Fits decimal? (room + 1) index.toJson := by
  rw [SearchIndex.toJson, Json.fits_object_iff]
  have hkeys : ["name", "type"].Pairwise (· < ·) := by decide
  exact ⟨(Entries.sorted_iff_keys _).mpr hkeys, by simp [Json.fits_string]⟩

lemma fits_memberIfSome {α : Type} (key : String) (write : α → Json) (value : Option α)
    (h : ∀ x, Fits decimal? room (write x)) :
    ∀ member ∈ Json.memberIfSome key (value.map write), Fits decimal? room member.2 := by
  cases value <;> simp [Json.memberIfSome, h]

lemma fits_type {type : ContentType}
    (h : ∀ spec ∈ type.stages, Fits decimal? room (.object spec.members)) :
    Fits decimal? (room + 2) type.toJson := by
  have hstages : Fits decimal? (room + 1)
      (.array (type.stages.map fun spec => .object spec.members)) := by
    rw [Json.fits_array_iff]
    simpa using h
  have hkeys : ["dcp_type", "index", "input_preprocessors"].Pairwise (· < ·) := by decide
  rw [ContentType.toJson, Json.fits_object_iff]
  refine ⟨?_, ?_⟩
  · rw [Entries.sorted_iff_keys]
    refine hkeys.sublist ?_
    simp only [Entries.keys_append]
    exact ((keys_memberIfSome _ _).append (keys_memberIfSome _ _)).append (.refl _)
  · simp only [List.forall_mem_append, List.forall_mem_singleton]
    exact ⟨⟨fits_memberIfSome _ _ _ Json.fits_string, fits_memberIfSome _ _ _ fits_index⟩, hstages⟩

lemma allWritten_parts {value : Json} {types : Entries ContentType}
    (h : ContentType.AllWritten value types) :
    ∃ members, value = .object members ∧ Entries.keys types = Entries.keys members ∧
      ∀ entry ∈ types, ∃ member ∈ members, ContentType.Written member.1 member.2 entry.2 := by
  obtain ⟨members, rfl, hmembers⟩ := h
  refine ⟨members, rfl, ?_⟩
  induction hmembers with
  | nil => simp [Entries.keys]
  | @cons member entry members types hentry _ ih =>
    obtain ⟨hkeys, hwritten⟩ := ih
    refine ⟨congrArg₂ List.cons hentry.1 hkeys, List.forall_mem_cons.mpr ⟨?_, ?_⟩⟩
    · exact ⟨member, List.mem_cons_self, hentry.2⟩
    · intro other hother
      obtain ⟨source, hsource, hother⟩ := hwritten other hother
      exact ⟨source, List.mem_cons_of_mem _ hsource, hother⟩

lemma fits_types {stored : Option Json} {types : Entries ContentType}
    (h : Stands ContentType.AllWritten [] stored types)
    (hfits : ∀ value, stored = some value → Fits decimal? (room + 3) value) :
    Fits decimal? (room + 3) (.object (types.map fun entry => (entry.1, entry.2.toJson))) := by
  rw [Json.fits_object_iff]
  cases h with
  | absent | null => simp [Entries.Sorted]
  | @given value _ hvalue hwritten =>
    obtain ⟨members, rfl, hkeys, hentries⟩ := allWritten_parts hwritten
    obtain ⟨hsorted, hmembers⟩ := (Json.fits_object_iff _).mp (hfits _ rfl)
    constructor
    · have hsame : Entries.keys (types.map fun entry => (entry.1, entry.2.toJson)) =
          Entries.keys members := by
        rw [← hkeys, Entries.keys, Entries.keys, List.map_map]
        rfl
      rw [Entries.sorted_iff_keys, hsame]
      exact (Entries.sorted_iff_keys members).mp hsorted
    · intro member hmember
      obtain ⟨entry, hentry, rfl⟩ := List.mem_map.mp hmember
      obtain ⟨source, hsource, htype⟩ := hentries entry hentry
      exact fits_type (fits_of_written htype (hmembers source hsource))

lemma fits_toDocument {document : Json} {provider : Provider}
    (h : ofDocument document = .ok provider) (hfits : Fits decimal? (room + 4) document) :
    Fits decimal? (room + 4) provider.toDocument := by
  have htold := (ofDocument_eq_ok document provider).mp h
  have htypes := fits_types htold.types fun value hvalue => hfits.member? hvalue
  have hkeys : ["name", "pwd_hash", "super_provider", "type"].Pairwise (· < ·) := by decide
  rw [toDocument, Json.fits_object_iff]
  refine ⟨?_, ?_⟩
  · rw [Entries.sorted_iff_keys]
    refine hkeys.sublist ?_
    simp only [Entries.keys_append]
    exact (((List.Sublist.refl _).append (keys_memberIfSome _ _)).append
      (keys_memberIfSome _ _)).append (.refl _)
  · simp only [List.forall_mem_append, List.forall_mem_singleton]
    exact ⟨⟨⟨Json.fits_string _, fits_memberIfSome _ _ _ Json.fits_string⟩,
      fits_memberIfSome _ _ _ Json.fits_bool⟩, htypes⟩

lemma documentsBy_shown {document : Json} {provider : Provider}
    (h : ofDocument document = .ok provider) (hfits : Fits decimal? Json.maxDepth document)
    (file : String) :
    Command.documentsBy (Json.parseWith? decimal?) file (provider.toDocument.pretty ++ "\n") =
      .ok [provider.toDocument] := by
  obtain ⟨hnormal, hreadable⟩ : Fits decimal? Json.maxDepth provider.toDocument :=
    fits_toDocument h hfits
  rw [Command.documentsBy, Json.parseWith?_pretty _ hnormal hreadable]
  rfl

end Fits

/-- What is written for a provider that was read is read as the same provider and written the same
way again, and no other provider is written like this. What is shown of the provider is imported as
what is written for it, by every reader that gets the numbers in its document right. -/
theorem toDocument_canonical (document : Json) (provider : Provider)
    (h : ofDocument document = .ok provider) :
    ofDocument provider.toDocument = .ok provider ∧
      (∀ again, ofDocument provider.toDocument = .ok again →
        again.toDocument = provider.toDocument) ∧
      (∀ other second, ofDocument other = .ok second →
        (second.toDocument = provider.toDocument ↔ second = provider)) ∧
      ∀ connection name (world : Command.World) later,
        ((Command.backend connection).findProvider name).run world.files =
          (.ok (some provider), later) →
            ∃ text, (Command.showProvider connection name).run world =
              (.ok (), { world with files := later, output := world.output ++ text }) ∧
                ∀ decimal?, Json.Fits decimal? Json.maxDepth document → ∀ file,
                  Command.documentsBy (Json.parseWith? decimal?) file text =
                    .ok [provider.toDocument] := by
  have hself : ofDocument provider.toDocument = .ok provider :=
    ofDocument_toDocument provider (id_of_ofDocument document provider h)
  refine ⟨hself, ?_, ?_, ?_⟩
  · intro again hagain
    rw [hself] at hagain
    rw [Except.ok.inj hagain]
  · intro other second hother
    have hsecond : ofDocument second.toDocument = .ok second :=
      ofDocument_toDocument second (id_of_ofDocument other second hother)
    constructor
    · intro hsame
      rw [hsame, hself] at hsecond
      exact (Except.ok.inj hsecond).symm
    · intro hsame
      rw [hsame]
  · intro connection name world later hfound
    refine ⟨provider.toDocument.pretty ++ "\n", ?_, fun _ hfits => documentsBy_shown h hfits⟩
    rw [Command.run_showProvider hfound, String.append_assoc]

section Samples

open Store

def looseDocument : Json :=
  .object [("name", .string "press"), ("note", .whole 3), ("pwd_hash", .null),
    ("type", .object [("a.b", .array [.string "news", .array [.string "texts", .string "essay"]]),
      ("essay", .object [("dcp_type", .null), ("input_preprocessors", .null)])])]

def looseProvider : Provider where
  name := "press"
  passwordHash := none
  superProvider := none
  types := [("a.b", ⟨"a.b", some "news", some ⟨"texts", "essay"⟩, []⟩),
    ("essay", ⟨"essay", none, none, []⟩)]

def scaledDocument : Json :=
  .object [("name", .string "press"), ("type", .object [("essay", .object
    [("input_preprocessors", .array [.object [("by", .number (.pointed ⟨false, 5, -1⟩)),
      ("class", .string "scale")]])])])]

def scaledProvider : Provider where
  name := "press"
  passwordHash := none
  superProvider := none
  types := [("essay", ⟨"essay", none, none,
    [⟨[("by", .number (.pointed ⟨false, 5, -1⟩)), ("class", .string "scale")]⟩]⟩)]

lemma fits_scaled : Json.Fits Decimal.ofWritten? Json.maxDepth scaledDocument := by
  have hhalf : Json.Legible Decimal.ofWritten? (.pointed ⟨false, 5, -1⟩) := by
    simp only [Json.Legible]
    decide +kernel
  refine ⟨by decide, ?_⟩
  simp [scaledDocument, Json.maxDepth, Json.Readable, Json.ItemsReadable, Json.MembersReadable,
    hhalf]

def scaledRun : Session × Ledger :=
  sampleRun [.openWith .writing, .insert 0 scaledDocument]

lemma found_scaledRun :
    ∃ later, ((Command.backend writingConnection).findProvider "press").run scaledRun.1.files =
      (.ok (some scaledProvider), later) := by
  have hdocuments : scaledRun.2.documents = [("i", scaledDocument)] := rfl
  have hstorable : scaledRun.2.Storable := by
    simp [Ledger.Storable, hdocuments,
      Json.storable_of_readable scaledDocument fits_scaled.1 fits_scaled.2]
  have hheld : Held writingConnection scaledRun.1 scaledRun.2 :=
    .intro (reachable_sample _) 0 rfl
  refine ⟨_, Prod.ext ?_ rfl⟩
  refine (findProvider_stocked (.disk hheld rfl hstorable) Password.check
    "press").trans ?_
  rw [hdocuments]
  decide

theorem toDocument_canonical_sample :
    ofDocument looseProvider.toDocument = .ok looseProvider ∧
      looseProvider.toDocument ≠ looseDocument ∧
      ∃ later text, (Command.showProvider writingConnection "press").run
          { files := scaledRun.1.files } = (.ok (), { files := later, output := text }) ∧
        Command.documentsOf "press.json" text = .ok [scaledDocument] := by
  have haccepted : ofDocument looseDocument = .ok looseProvider := by decide
  refine ⟨(toDocument_canonical looseDocument looseProvider haccepted).1, by decide, ?_⟩
  obtain ⟨later, hfound⟩ := found_scaledRun
  have hscaled : ofDocument scaledDocument = .ok scaledProvider := by decide
  obtain ⟨text, hshown, himported⟩ := (toDocument_canonical scaledDocument _ hscaled).2.2.2
    writingConnection "press" { files := scaledRun.1.files } later hfound
  have hwritten : scaledProvider.toDocument = scaledDocument := by decide
  rw [hwritten] at himported
  exact ⟨later, text, by rw [hshown, String.empty_append],
    himported Decimal.ofWritten? fits_scaled "press.json"⟩

end Samples

end Provider

end ContentHub
