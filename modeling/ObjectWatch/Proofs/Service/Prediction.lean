import ObjectWatch.Proofs.Watcher.Lifecycle
import ObjectWatch.Proofs.Watcher.Preparation
import ObjectWatch.Service.Checkup

/-!
# What a checkup predicts

A checkup that reaches the object says whether content of that kind is going to be decoded.  A watcher
decides the same question when it has the content.  Both go by the key and by the word for gzip in the
declared encoding, but they read the encoding differently: to a watcher the letter case is immaterial,
and a checkup looks for small letters.

So the two agree on every encoding except those that hold the word in no other way than with a capital
letter.  For a gzip file with such an encoding the checkup announces decoding, and the watcher hands the
content on as it was served.
-/

namespace ObjectWatch

/-- The text by which a checkup announces that content is going to be decoded. -/
def decodingLine : String := "   Gzip will be decoded client-side"

/-- The text by which a checkup announces that the transport takes care of decoding. -/
def transportLine : String := "   Gzip handled by transport, no client-side decoding"

/-- An encoding holds the word for gzip in small letters. -/
def SpellsGzip (encoding : Option String) : Prop := gzipWord.toList <:+: (encoding.getD "").toList

theorem SpellsGzip.mentionsGzip {encoding : Option String} (spells : SpellsGzip encoding) :
    MentionsGzip encoding := ⟨gzipWord.toList, spells, by decide⟩

/-! ## What a checkup prints -/

/-- A text is one of the two announcements. -/
def Announces (line : String) : Prop := line = decodingLine ∨ line = transportLine

/-- How the texts begin that show something. -/
def showing : List String :=
  ["   Bucket: ", "   Key: ", "   Region: ", "   Credentials: ", "   Embedded cert: ", "✅ ETag: ",
    "   Content-Encoding: "]

/-- The announcements show nothing. -/
theorem Announces.ne_append {line : String} (announces : Announces line) {first : String}
    (shows : first ∈ showing) (shown : String) : line ≠ first ++ shown := by
  have others : forall first, first ∈ showing -> ¬ first.toList <+: line.toList := by
    rcases announces with rfl | rfl <;> decide +kernel
  intro same
  apply others first shows
  rw [same, String.toList_append]
  exact List.prefix_append _ _

namespace Checkup

theorem reportsTransport_iff (encoding : Option String) :
    reportsTransport encoding = true ↔ SpellsGzip encoding := Text.occurs_iff _ _

/-- The two announcements are made for gzip files only, and which one is made goes by the encoding. -/
theorem mem_objectLines_iff {line : String} (announces : Announces line)
    (key : String) (metadata : Metadata) :
    line ∈ objectLines key metadata ↔ ".gz".toList <:+ key.toList ∧
      (line = transportLine ↔ SpellsGzip metadata.encoding) := by
  have other : line ∉ ["✅ ETag: " ++ metadata.token,
      "   Content-Encoding: " ++ shownEncoding metadata.encoding] := by
    intro member
    simp only [List.mem_cons, List.not_mem_nil, or_false] at member
    rcases member with same | same
    · exact announces.ne_append (by simp [showing]) _ same
    · exact announces.ne_append (by simp [showing]) _ same
  have different : decodingLine ≠ transportLine := by decide +kernel
  unfold objectLines
  rw [List.mem_append, or_iff_right other, ← expectsCompressed_iff, ← reportsTransport_iff]
  by_cases named : expectsCompressed key = true
  · rw [if_pos named, List.mem_singleton, and_iff_right named]
    by_cases spells : reportsTransport metadata.encoding = true
    · rw [if_pos spells, iff_true_right spells]
      rfl
    · rw [if_neg spells, iff_false_right spells]
      rcases announces with rfl | rfl
      · exact iff_of_true rfl different
      · exact iff_of_false different.symm fun same => same rfl
  · rw [if_neg named]
    exact iff_of_false List.not_mem_nil fun both => named both.1

/-- None of the texts before is one of the announcements. -/
theorem not_mem_of_announces {line : String} (announces : Announces line)
    (target : Target) (credentials : Credentials) :
    line ∉ heading ++ configurationLines target credentials := by
  intro member
  rcases List.mem_append.mp member with member | member
  · revert member
    rcases announces with rfl | rfl <;> decide +kernel
  · have title : line ≠ "📋 Configuration:" := by rcases announces with rfl | rfl <;> decide +kernel
    simp only [configurationLines, List.mem_cons, List.not_mem_nil, or_false] at member
    rcases member with same | same | same | same | same | same
    · exact title same
    all_goals exact announces.ne_append (by simp [showing]) _ same

/-- A checkup that has failed has not reached the object. -/
theorem failing_result (lines : List String) (journal : Journal) (report : Report) :
    (failing lines journal report).result ≠ .ok true := by
  unfold failing
  split
  · split <;> exact fun impossible => (by cases impossible)
  · exact fun impossible => (by cases impossible)

/-- What a checkup prints that examines the object and reaches it. -/
theorem examine_of_reached {target : Target} {credentials : Credentials} {remote : Remote}
    {journal : Journal} {metadata : Metadata} (answered : remote.head.1.outcome = .ok metadata)
    (reached : (examine target credentials remote journal).result = .ok true) :
    (examine target credentials remote journal).lines =
      heading ++ configurationLines target credentials ++ objectLines target.key metadata := by
  unfold examine at reached ⊢
  dsimp only at reached ⊢
  cases attempt : remote.client with
  | mk failure left =>
      have same : left = { remote with clients := remote.clients.tail } :=
        (congrArg Prod.snd attempt).symm
      subst same
      rw [attempt] at reached
      cases failure with
      | some fault => exact absurd reached (failing_result _ _ _)
      | none =>
          have same : ({ remote with clients := remote.clients.tail } : Remote).head.1.outcome =
            .ok metadata := answered
          dsimp only
          rw [same]

/-- What a checkup printed that has reached the object. -/
theorem lines_of_reached {sources : Sources} {remote : Remote} {settings : Settings} {target : Target}
    {metadata : Metadata} (read : sources.settingsOnce none = .ok settings)
    (named : settings.target = .ok target) (answered : remote.head.1.outcome = .ok metadata)
    (reached : (ofSources sources remote).result = .ok true) :
    exists completed credentials, (ofSources sources remote).lines =
        heading ++ configurationLines completed credentials ++ objectLines target.key metadata := by
  have same : ofSources sources remote = ofTarget target sources.environment remote := by
    unfold ofSources
    rw [read]
    dsimp only
    rw [named]
  rw [same] at reached ⊢
  unfold ofTarget at reached ⊢
  dsimp only at reached ⊢
  generalize start : (Scene.mk { target, environment := sources.environment, buildsClient := true }
    { remote }) = scene at reached ⊢
  have course := preparation_course scene
  cases prepared : Watcher.prepare scene with
  | error failure after =>
      rw [prepared] at reached
      exact absurd reached (failing_result _ _ _)
  | ok value after =>
      rw [prepared] at reached course
      dsimp only at reached ⊢
      cases course with
      | prepared _ built =>
          have reply : scene.equipped.around.remote.head.1 = scene.around.remote.head.1 :=
            congrArg (fun replies => (Remote.next replies).1) scene.equipped_remote.1
          have key : scene.equipped.watcher.target.key = scene.watcher.target.key := by
            rw [scene.equipped_watcher]
            rfl
          subst start
          rw [← show _ = target.key from key]
          exact ⟨_, _, examine_of_reached ((congrArg Reply.outcome reply).trans answered) reached⟩

/-- Which announcement a checkup has made that has reached the object. -/
theorem mem_lines_iff {sources : Sources} {remote : Remote} {settings : Settings} {target : Target}
    {metadata : Metadata} (read : sources.settingsOnce none = .ok settings)
    (named : settings.target = .ok target) (answered : remote.head.1.outcome = .ok metadata)
    (reached : (ofSources sources remote).result = .ok true) {line : String}
    (announces : Announces line) :
    line ∈ (ofSources sources remote).lines ↔ ".gz".toList <:+ target.key.toList ∧
      (line = transportLine ↔ SpellsGzip metadata.encoding) := by
  rcases lines_of_reached read named answered reached with ⟨completed, credentials, lines⟩
  rw [lines, List.mem_append, or_iff_right (not_mem_of_announces announces completed credentials)]
  exact mem_objectLines_iff announces target.key metadata

end Checkup

/-! ## What a watcher does -/

namespace Scene

variable {scene : Scene} {body : Body} {encoding : Option String}

/-- A poll returns the body that it retrieves, as it was served. -/
def ReturnsAsServed (scene : Scene) (body : Body) : Prop :=
  exists after, Watcher.poll scene = .ok (some (.raw body)) after

/-- Content comes back as it was served exactly if it is not to be unpacked. -/
theorem Retrieves.returnsAsServed_iff (retrieves : scene.Retrieves body encoding) :
    scene.ReturnsAsServed body ↔ scene.unpacks encoding = false := by
  constructor
  · rintro ⟨after, polled⟩
    rcases (poll_course scene).opening retrieves.1 retrieves.2 with ⟨metadata, _, course⟩
    rw [polled] at course
    cases course with
    | raw asIs => rwa [supplied_unpacks] at asIs
  · intro asIs
    rcases retrieves.poll_of_asIs asIs with ⟨after, polled, _⟩
    exact ⟨after, polled⟩

/-- A watcher that remembers nothing unpacks by the key and the encoding. -/
theorem unpacks_iff_of_fresh (fresh : scene.watcher.progress = {}) :
    scene.unpacks encoding = true ↔
      ".gz".toList <:+ scene.watcher.target.key.toList ∧ ¬ MentionsGzip encoding := by
  have trusting : scene.watcher.progress.decodeState ≠ .disabled := by
    rw [fresh]
    decide
  rw [unpacks_iff, and_iff_left trusting]

end Scene

/-! ## Prediction and behaviour -/

/-- A checkup that reaches an object announces rightly what a watcher does that has just begun and
retrieves a body with the same declared encoding, unless the object is a gzip file and the encoding holds
the word for gzip in no other way than with a capital letter.  Then the checkup announces decoding, and
the watcher returns the body as it was served. -/
theorem prediction_right_iff {sources : Sources} {remote : Remote} {settings : Settings}
    {target : Target} {metadata : Metadata} (read : sources.settingsOnce none = .ok settings)
    (named : settings.target = .ok target) (answered : remote.head.1.outcome = .ok metadata)
    (reached : (Checkup.ofSources sources remote).result = .ok true) {scene : Scene} {body : Body}
    (fresh : scene.watcher.progress = {}) (sameKey : scene.watcher.target.key = target.key)
    (retrieves : scene.Retrieves body metadata.encoding) :
    (((decodingLine ∈ (Checkup.ofSources sources remote).lines ↔ scene.ReadsBody) ∧
        (transportLine ∈ (Checkup.ofSources sources remote).lines ↔
          ".gz".toList <:+ target.key.toList ∧ scene.ReturnsAsServed body)) ↔
      (".gz".toList <:+ target.key.toList -> MentionsGzip metadata.encoding ->
        SpellsGzip metadata.encoding)) ∧
    (".gz".toList <:+ target.key.toList -> MentionsGzip metadata.encoding ->
      ¬ SpellsGzip metadata.encoding ->
        decodingLine ∈ (Checkup.ofSources sources remote).lines ∧
          transportLine ∉ (Checkup.ofSources sources remote).lines ∧
          ¬ scene.ReadsBody ∧ scene.ReturnsAsServed body) := by
  have different : decodingLine ≠ transportLine := by decide +kernel
  have decoding := Checkup.mem_lines_iff read named answered reached (.inl rfl)
  have transport := Checkup.mem_lines_iff read named answered reached (.inr rfl)
  rw [iff_false_left different] at decoding
  rw [iff_true_left rfl] at transport
  have unpacks := @Scene.unpacks_iff_of_fresh scene metadata.encoding fresh
  rw [sameKey] at unpacks
  rw [decoding, transport, retrieves.readsBody_iff, retrieves.returnsAsServed_iff, ← Bool.not_eq_true,
    unpacks]
  have agree : forall isGzip : ".gz".toList <:+ target.key.toList,
      (".gz".toList <:+ target.key.toList -> MentionsGzip metadata.encoding ->
        SpellsGzip metadata.encoding) ->
      (SpellsGzip metadata.encoding ↔ MentionsGzip metadata.encoding) :=
    fun isGzip spelled => ⟨SpellsGzip.mentionsGzip, spelled isGzip⟩
  refine ⟨⟨fun right isGzip mentions => ?_, fun spelled => ⟨?_, ?_⟩⟩,
    fun isGzip mentions unspelled => ?_⟩
  · exact Classical.byContradiction fun unspelled => (right.1.mp ⟨isGzip, unspelled⟩).2 mentions
  · exact and_congr_right fun isGzip => not_congr (agree isGzip spelled)
  · refine and_congr_right fun isGzip => ?_
    rw [and_iff_right isGzip, Classical.not_not]
    exact agree isGzip spelled
  · exact ⟨⟨isGzip, unspelled⟩, fun both => unspelled both.2, fun both => both.2 mentions,
      fun both => both.2 mentions⟩

/-- Variables, read by their exact names, that name a gzip file. -/
def archiveSources : Sources where
  environment := [("s3_bucket", "b"), ("s3_key", "k.gz")]
  reading := { isCaseSensitive := true }

/-- A store that has one version of an object and declares an encoding for it. -/
def declaring (encoding : String) : Remote where
  heads := [{ outcome := .ok { tag := some "first", encoding := some encoding } }]
  gets := [{ outcome := .ok { body := some (.ofBytes Gzip.letterMember), encoding := some encoding } }]

/-- A watcher that is about to poll this store for the first time. -/
def firstLook (encoding : String) : Scene where
  watcher :=
    { target := { bucket := "b", key := "k.gz" }
      credentials := some (Credentials.resolve { bucket := "b", key := "k.gz" } []) }
  around := { remote := declaring encoding }

/-- Written in capital letters, the encoding misleads the checkup. -/
theorem prediction_right_iff_in_capitals :
    (Checkup.ofSources archiveSources (declaring "GZIP")).result = .ok true ∧
      (firstLook "GZIP").watcher.progress = {} ∧
      (firstLook "GZIP").Retrieves (.ofBytes Gzip.letterMember) (some "GZIP") ∧
      decodingLine ∈ (Checkup.ofSources archiveSources (declaring "GZIP")).lines ∧
      (firstLook "GZIP").ReturnsAsServed (.ofBytes Gzip.letterMember) ∧
      transportLine ∈ (Checkup.ofSources archiveSources (declaring "gzip")).lines := by
  have retrieves : forall encoding,
      (firstLook encoding).Retrieves (.ofBytes Gzip.letterMember) (some encoding) := fun encoding =>
    ⟨(poll_course _).asks_iff.mpr ⟨rfl, rfl, ⟨_, rfl, (by decide : "first" ≠ "")⟩, rfl⟩, rfl⟩
  have sources : exists settings target, archiveSources.settingsOnce none = .ok settings ∧
      settings.target = .ok target ∧ target.key = "k.gz" :=
    ⟨_, _, by with_unfolding_all rfl, by with_unfolding_all rfl, by with_unfolding_all rfl⟩
  rcases sources with ⟨settings, target, read, named, key⟩
  have reached : (Checkup.ofSources archiveSources (declaring "GZIP")).result = .ok true := by
    with_unfolding_all rfl
  have reachedSmall : (Checkup.ofSources archiveSources (declaring "gzip")).result = .ok true := by
    with_unfolding_all rfl
  have isGzip : ".gz".toList <:+ target.key.toList := by
    rw [key]
    decide +kernel
  have capitals : MentionsGzip (some "GZIP") := ⟨"GZIP".toList, List.infix_refl _, by decide +kernel⟩
  have unspelled : ¬ SpellsGzip (some "GZIP") := by
    unfold SpellsGzip
    decide +kernel
  have spelled : SpellsGzip (some "gzip") := List.infix_refl _
  have misleads := (prediction_right_iff read named rfl reached rfl key.symm (retrieves "GZIP")).2 isGzip
    capitals unspelled
  have right := (prediction_right_iff read named rfl reachedSmall rfl key.symm (retrieves "gzip")).1.mpr
    fun _ _ => spelled
  refine ⟨reached, rfl, retrieves "GZIP", misleads.1, misleads.2.2.2, right.2.mpr ⟨isGzip, ?_⟩⟩
  refine (retrieves "gzip").returnsAsServed_iff.mpr ?_
  decide +kernel

end ObjectWatch
