import ObjectWatch.Proofs.Watcher.Run
import ObjectWatch.Proofs.Gzip.Download
import ObjectWatch.Proofs.Gzip.Exactness

/-!
# When decoding is given up

A watcher whose key says that the content is gzip unpacks what it retrieves, until decoding is given up.
That is meant for content that is not gzip.  Where every body that is retrieved is a download of a gzip
file, decoding is given up exactly when one of them is mistaken: when it failed in a way that looks like
content that is not gzip.  A broken connection and a timeout do look so while a download is opened, and
so does any failure after the first byte.  From then on content is handed on as it was served.
-/

namespace ObjectWatch

/-- What a reply to a request for content brings: a body with the encoding that is declared for it. -/
def Reply.download? (reply : Reply Delivery) : Option (Body × Option String) :=
  (reply.outcome.bind fun delivery => delivery.content.map (·, delivery.encoding)).toOption

/-- The bodies that replies brought, in order, with their encodings. -/
def downloadsOf (replies : List (Reply Delivery)) : List (Body × Option String) :=
  replies.filterMap Reply.download?

/-- Every body that replies brought is a download of a gzip file that the watcher is to unpack. -/
def BringDownloads (replies : List (Reply Delivery)) : Prop :=
  forall body encoding, (body, encoding) ∈ downloadsOf replies ->
    body.IsDownload ∧ isTransportCompressed encoding = false

/-- Some body that replies brought is a download that is mistaken for content that is not gzip. -/
def BringMistaken (replies : List (Reply Delivery)) : Prop :=
  exists body encoding, (body, encoding) ∈ downloadsOf replies ∧ body.IsMistaken

/-- Decoding was given up. -/
def Scene.HasGivenUp (scene : Scene) : Prop := scene.watcher.progress.decodeState = .disabled

theorem downloadsOf_append (first second : List (Reply Delivery)) :
    downloadsOf (first ++ second) = downloadsOf first ++ downloadsOf second :=
  List.filterMap_append

theorem bringMistaken_append (first second : List (Reply Delivery)) :
    BringMistaken (first ++ second) ↔ BringMistaken first ∨ BringMistaken second := by
  unfold BringMistaken
  rw [downloadsOf_append]
  constructor
  · rintro ⟨body, encoding, member, mistaken⟩
    rcases List.mem_append.mp member with here | there
    · exact .inl ⟨body, encoding, here, mistaken⟩
    · exact .inr ⟨body, encoding, there, mistaken⟩
  · intro either
    rcases either with ⟨body, encoding, member, mistaken⟩ | ⟨body, encoding, member, mistaken⟩
    · exact ⟨body, encoding, List.mem_append_left _ member, mistaken⟩
    · exact ⟨body, encoding, List.mem_append_right _ member, mistaken⟩

theorem BringDownloads.parts {first second : List (Reply Delivery)}
    (downloads : BringDownloads (first ++ second)) :
    BringDownloads first ∧ BringDownloads second := by
  unfold BringDownloads at downloads
  rw [downloadsOf_append] at downloads
  refine ⟨fun body encoding member => ?_, fun body encoding member => ?_⟩
  · exact downloads body encoding (List.mem_append_left _ member)
  · exact downloads body encoding (List.mem_append_right _ member)

/-- The next reply, if the store has one. -/
theorem downloadsOf_take_one (replies : List (Reply Delivery)) :
    downloadsOf (replies.take 1) = (Remote.next replies).1.download?.toList := by
  cases replies with
  | nil => rfl
  | cons reply rest =>
      unfold downloadsOf Remote.next
      cases brought : reply.download? with
      | none => simp [brought]
      | some download => simp [brought]

/-! ## Between two scenes -/

/-- Replies account for decoding between two scenes: if they bring downloads, decoding was given up
exactly for a mistaken one. -/
def Accounts (before after : Scene) (gets : List (Reply Delivery)) : Prop :=
  BringDownloads gets -> (after.HasGivenUp ↔ before.HasGivenUp ∨ BringMistaken gets)

namespace Accounts

theorem of_nothing {before after : Scene} {gets : List (Reply Delivery)}
    (nothing : downloadsOf gets = [])
    (same : after.watcher.progress.decodeState = before.watcher.progress.decodeState) :
    Accounts before after gets := by
  intro _
  unfold Scene.HasGivenUp
  rw [same]
  constructor
  · exact .inl
  · intro either
    rcases either with givenUp | ⟨body, encoding, member, _⟩
    · exact givenUp
    · rw [nothing] at member
      cases member

theorem of_same {before after : Scene}
    (same : after.watcher.progress.decodeState = before.watcher.progress.decodeState) :
    Accounts before after [] := of_nothing rfl same

theorem trans {first second third : Scene} {gets moreGets : List (Reply Delivery)}
    (left : Accounts first second gets) (right : Accounts second third moreGets) :
    Accounts first third (gets ++ moreGets) := by
  intro downloads
  rw [right downloads.parts.2, left downloads.parts.1, bringMistaken_append, or_assoc]

end Accounts

/-! ## The paths of a poll -/

theorem Progress.markDecoded_eq_disabled_iff {progress : Progress} :
    progress.markDecoded.decodeState = .disabled ↔ progress.decodeState = .disabled := by
  unfold markDecoded
  cases state : progress.decodeState <;> simp [state]

theorem Scene.hasGivenUp_of_asIs {scene : Scene} {encoding : Option String}
    (compressed : expectsCompressed scene.watcher.target.key = true)
    (plain : isTransportCompressed encoding = false) :
    scene.unpacks encoding = false ↔ scene.HasGivenUp := by
  unfold Scene.unpacks Scene.HasGivenUp Progress.mayDecode
  rw [compressed, plain]
  simp

/-- Opening a download gives decoding up exactly if the download is mistaken. -/
theorem OpeningCourse.givesUp {scene : Scene} {token : String} {body : Body}
    {encoding : Option String} {result : PollEnd}
    (course : OpeningCourse scene token body encoding result)
    (compressed : expectsCompressed scene.watcher.target.key = true) (download : body.IsDownload)
    (plain : isTransportCompressed encoding = false) :
    (stateOf result).HasGivenUp ↔ scene.HasGivenUp ∨ body.IsMistaken := by
  have decides := @Scene.hasGivenUp_of_asIs scene encoding compressed plain
  rw [download.isMistaken_iff]
  cases course with
  | raw asIs =>
      have givenUp := decides.mp asIs
      exact ⟨fun _ => .inl givenUp, fun _ => givenUp⟩
  | unpacked stream unpacks opened =>
      have trusting : ¬ scene.HasGivenUp := by
        rw [← decides, unpacks]
        exact Bool.false_ne_true.symm
      constructor
      · intro givenUp
        exact absurd (Progress.markDecoded_eq_disabled_iff.mp givenUp) trusting
      · intro either
        rcases either with givenUp | ⟨cause, left, failed, _⟩
        · exact absurd givenUp trusting
        · rw [opened] at failed
          cases failed
  | broken cause left unpacks failed unrelated =>
      constructor
      · exact .inl
      · intro either
        rcases either with givenUp | ⟨other, otherLeft, otherwise, spoils⟩
        · exact givenUp
        · rw [failed] at otherwise
          cases otherwise
          rw [unrelated] at spoils
          cases spoils
  | notGzip cause left unpacks failed spoils =>
      have givenUp : (scene.givenUp cause).HasGivenUp := by
        unfold Scene.HasGivenUp
        rw [Scene.givenUp_watcher]
        rfl
      exact ⟨fun _ => .inr ⟨cause, left, failed, spoils⟩, fun _ => givenUp⟩

theorem RetrievalCourse.accounts {scene : Scene} {token : String} {result : PollEnd}
    (course : RetrievalCourse scene token result)
    (compressed : expectsCompressed scene.watcher.target.key = true) :
    exists gets, Given scene (stateOf result) [] gets ∧ Accounts scene (stateOf result) gets := by
  have brought := downloadsOf_take_one scene.around.remote.gets
  have unfetched : forall cause, scene.fetched = .error cause ->
      downloadsOf (scene.around.remote.gets.take 1) = [] := by
    intro cause outcome
    have nothing : (Remote.next scene.around.remote.gets).1.download? = none :=
      congrArg Except.toOption outcome
    rw [brought, nothing]
    rfl
  cases course with
  | stopped cancelled => exact ⟨[], .of_same rfl, .of_same rfl⟩
  | aborted cause free outcome aborts =>
      refine ⟨_, scene.given_retrieved, ?_⟩
      exact .of_nothing (unfetched cause outcome) (by simp [stateOf])
  | failed cause free outcome ordinary =>
      have given := scene.given_retrieved
      refine ⟨_, ⟨given.heads, given.gets⟩, ?_⟩
      exact .of_nothing (unfetched cause outcome) (by simp [stateOf])
  | delivered body encoding result free outcome course =>
      have something : (Remote.next scene.around.remote.gets).1.download? = some (body, encoding) :=
        congrArg Except.toOption outcome
      rw [something] at brought
      have rest : Given scene.retrieved (stateOf result) [] [] := .of_same course.remote
      have given : Given scene (stateOf result) [] (scene.around.remote.gets.take 1) := by
        simpa using scene.given_retrieved.trans rest
      refine ⟨_, given, fun downloads => ?_⟩
      have member : (body, encoding) ∈ downloadsOf (scene.around.remote.gets.take 1) := by
        rw [brought]
        exact List.mem_singleton.mpr rfl
      rcases downloads body encoding member with ⟨download, plain⟩
      have before : (scene.retrieved.counted (Tally.recordRetrieval token true)).HasGivenUp ↔
          scene.HasGivenUp := by
        simp [Scene.HasGivenUp]
      rw [course.givesUp (by simpa using compressed) download plain, before]
      refine or_congr Iff.rfl ⟨fun mistaken => ⟨body, encoding, member, mistaken⟩, ?_⟩
      rintro ⟨other, otherEncoding, otherMember, mistaken⟩
      rw [brought] at otherMember
      cases List.mem_singleton.mp otherMember
      exact mistaken

theorem ProbeCourse.accounts {scene : Scene} {result : PollEnd} (course : ProbeCourse scene result)
    (compressed : expectsCompressed scene.watcher.target.key = true) :
    exists gets, Given scene (stateOf result) (scene.around.remote.heads.take 1) gets ∧
      Accounts scene (stateOf result) gets := by
  have answered := scene.given_probed
  cases course with
  | aborted cause outcome aborts => exact ⟨[], answered, .of_same (by simp [stateOf])⟩
  | failed cause outcome ordinary =>
      exact ⟨[], ⟨answered.heads, answered.gets⟩, .of_same (by simp [stateOf])⟩
  | unchanged metadata outcome known =>
      exact ⟨[], ⟨answered.heads, answered.gets⟩, .of_same (by simp [stateOf])⟩
  | changed metadata result outcome new course =>
      rcases course.accounts (by simpa using compressed) with ⟨gets, given, accounts⟩
      have step : Given scene (stateOf result) _ _ :=
        answered.trans (.mk given.heads given.gets)
      rw [List.append_nil] at step
      refine ⟨gets, step, ?_⟩
      have before : Accounts scene
          ((scene.probed.counted (Tally.recordProbe true)).committed metadata.token) [] :=
        .of_same (by simp [Progress.commit])
      exact before.trans accounts

/-- A poll accounts for decoding by the replies that it is given. -/
theorem Course.accounts {scene : Scene} {result : PollEnd} (course : Course scene result)
    (compressed : expectsCompressed scene.watcher.target.key = true) :
    exists heads gets, Given scene (stateOf result) heads gets ∧
      Accounts scene (stateOf result) gets ∧
      (stateOf result).watcher.target = scene.watcher.target := by
  have began := scene.begun_watcher
  cases course with
  | notPrepared unprepared => exact ⟨[], [], .of_same rfl, .of_same rfl, rfl⟩
  | waitRefused prepared stranded => exact ⟨[], [], .of_same rfl, .of_same rfl, rfl⟩
  | stoppedWaiting prepared polled paced cancelled =>
      have waited := scene.waited_watcher
      exact ⟨[], [], .of_same (Scene.interruptWait_remote _), .of_same (by simp [stateOf, waited]),
        by simp [stateOf, waited]⟩
  | stoppedBefore prepared first cancelled =>
      exact ⟨[], [], .of_same scene.begun_remote,
        .of_same (by simp [stateOf, began, Progress.markPolled]), by simp [stateOf, began]⟩
  | probing result prepared free course =>
      rcases course.accounts (by rw [began]; exact compressed) with ⟨gets, given, accounts⟩
      have before : Accounts scene scene.begun [] :=
        .of_same (by simp [began, Progress.markPolled])
      refine ⟨_, gets, (Given.of_same scene.begun_remote).trans given, before.trans accounts, ?_⟩
      rw [course.target_eq, began]

/-! ## All moves -/

/-- A run accounts for decoding by the replies that it is given. -/
theorem Scene.run_accounts (moves : List Move) (scene : Scene)
    (compressed : expectsCompressed scene.watcher.target.key = true) :
    exists heads gets, Given scene (scene.run moves) heads gets ∧
      Accounts scene (scene.run moves) gets ∧
      (scene.run moves).watcher.target = scene.watcher.target := by
  induction moves generalizing scene with
  | nil => exact ⟨[], [], .of_same rfl, .of_same rfl, rfl⟩
  | cons move moves inductionHypothesis =>
      have step : exists heads gets, Given scene (move.apply scene) heads gets ∧
          Accounts scene (move.apply scene) gets ∧
          (move.apply scene).watcher.target = scene.watcher.target := by
        cases move with
        | poll => exact (poll_course scene).accounts compressed
        | cancel => exact ⟨[], [], .of_same rfl, .of_same rfl, rfl⟩
        | reset => exact ⟨[], [], .of_same rfl, .of_same rfl, rfl⟩
      rcases step with ⟨heads, gets, given, accounts, target⟩
      rcases inductionHypothesis (move.apply scene) (by rw [target]; exact compressed) with
        ⟨moreHeads, moreGets, moreGiven, moreAccounts, moreTarget⟩
      exact ⟨heads ++ moreHeads, gets ++ moreGets, given.trans moreGiven,
        accounts.trans moreAccounts, moreTarget.trans target⟩

/-! ## Content that is returned -/

/-- Content is returned as it was served, or as the stream of what was served. -/
theorem Course.returned {scene after : Scene} {content : Content}
    (course : Course scene (.ok (some content) after)) :
    exists body encoding, scene.getReply.download? = some (body, encoding) ∧
      (scene.unpacks encoding = false ∧ content = .raw body ∨
        exists stream, scene.unpacks encoding = true ∧ content = .unpacked stream ∧
          Gzip.openBody body = .ok stream) := by
  cases course with
  | probing _ prepared free course =>
      cases course with
      | changed metadata _ outcome new course =>
          cases course with
          | delivered body encoding _ free fetched course =>
              have reply : scene.getReply = scene.begun.probed.getReply := by
                unfold Scene.getReply
                rw [Scene.probed_remote, scene.begun_remote]
                rfl
              have unpacksAlike : forall other : Scene,
                  other.watcher.progress.decodeState = scene.watcher.progress.decodeState ->
                  other.watcher.target = scene.watcher.target ->
                  other.unpacks encoding = scene.unpacks encoding := by
                intro other state target
                unfold Scene.unpacks Progress.mayDecode
                rw [state, target]
              have began := scene.begun_watcher
              have alike := unpacksAlike
                ((((scene.begun.probed.counted (Tally.recordProbe true)).committed
                  metadata.token).retrieved).counted (Tally.recordRetrieval metadata.token true))
                (by simp [began, Progress.commit, Progress.markPolled]) (by simp [began])
              refine ⟨body, encoding, ?_, ?_⟩
              · rw [reply]
                exact congrArg Except.toOption fetched
              · cases course with
                | raw asIs => exact .inl ⟨alike.symm.trans asIs, rfl⟩
                | unpacked stream unpacks opened =>
                    exact .inr ⟨stream, alike.symm.trans unpacks, rfl, opened⟩

/-- Content that unpacks a body: read to its end, in pieces of any sizes, it gives what the body stands
for, unless it fails as the body does. -/
def Content.Unpacks (content : Content) (body : Body) : Prop :=
  exists stream, content = .unpacked stream ∧
    forall sizes : Nat -> Nat, (forall turn, 0 < sizes turn) ->
      exists enough, forall rounds, enough ≤ rounds ->
        Ends (stream.readToEnd sizes rounds 0)
          (fun result _ => exists bytes more, result = some bytes ∧
            Gzip.decode? (body.rest ++ more) = some bytes ∧ (body.failure = none -> more = []))
          (fun fault _ => body.failure = some fault)

theorem Body.IsDownload.unpacks {body : Body} (download : body.IsDownload) {stream : Gzip.Stream}
    (opened : Gzip.openBody body = .ok stream) : (Content.unpacked stream).Unpacks body := by
  rcases download.serves with ⟨more, content, serves, decoded⟩
  have several : body.rest.length ≠ 1 := by
    intro lone
    rcases download.prime_of_lone_byte lone with ⟨message, after, failed⟩
    rw [Gzip.Stream.prime_of_openBody opened] at failed
    cases failed
  have gives := Gzip.Stream.openBody_ok serves (download.shows several) opened
  have yields := (gives.yields_iff content).mpr decoded
  refine ⟨stream, rfl, fun sizes positive => ⟨stream.potential + 1, fun rounds enough => ?_⟩⟩
  refine (Gzip.Stream.readToEnd_of_enough positive enough gives.opened gives.sound).mono ?_ ?_
  · intro result after answer
    rcases answer with ⟨bytes, same, exact⟩
    rw [(exact content).mp yields] at decoded
    exact ⟨bytes, more, same, decoded, serves.whole⟩
  · intro fault after refuses
    rcases refuses with failed | ⟨_, nothing⟩
    · exact failed
    · exact absurd yields (nothing content)

/-! ## When decoding is given up -/

/-- Where every body that is retrieved is a download of a gzip file, decoding is given up exactly when
one of them was mistaken for content that is not gzip.  From then on a poll returns content as it was
served, and until then it returns what the content stands for. -/
theorem decoding_given_up_iff {start : Scene} (trusting : ¬ start.HasGivenUp)
    (compressed : expectsCompressed start.watcher.target.key = true) (moves : List Move)
    {heads : List (Reply Metadata)} {gets : List (Reply Delivery)}
    (given : Given start (start.run moves) heads gets) (downloads : BringDownloads gets) :
    ((start.run moves).HasGivenUp ↔ BringMistaken gets) ∧
      forall body encoding content after,
        (start.run moves).getReply.download? = some (body, encoding) -> body.IsDownload ->
        isTransportCompressed encoding = false ->
        Watcher.poll (start.run moves) = .ok (some content) after ->
        BringMistaken gets ∧ content = .raw body ∨ ¬ BringMistaken gets ∧ content.Unpacks body := by
  rcases start.run_accounts moves compressed with ⟨otherHeads, otherGets, sameGiven, accounts, target⟩
  rcases given.unique sameGiven with ⟨_, rfl⟩
  have law : (start.run moves).HasGivenUp ↔ BringMistaken gets := by
    rw [accounts downloads]
    exact or_iff_right trusting
  refine ⟨law, fun body encoding content after brings download plain polled => ?_⟩
  have course := poll_course (start.run moves)
  rw [polled] at course
  rcases course.returned with ⟨other, otherEncoding, reply, how⟩
  rw [brings] at reply
  cases reply
  have decides := @Scene.hasGivenUp_of_asIs (start.run moves) encoding (target ▸ compressed) plain
  rcases how with ⟨asIs, same⟩ | ⟨stream, unpacks, same, opened⟩
  · exact .inl ⟨law.mp (decides.mp asIs), same⟩
  · refine .inr ⟨fun mistaken => ?_, same ▸ download.unpacks opened⟩
    rw [decides.mpr (law.mpr mistaken)] at unpacks
    cases unpacks

/-- A download whose connection is reset inside the header. -/
def resetDownload : Body where
  rest := Gzip.letterMember.take 4
  failure := some (.system .connection "reset")

/-- A store that serves such a download first, and then another version whole. -/
def interrupted : Scene where
  watcher :=
    { target := { bucket := "b", key := "k.gz" }
      credentials := some (Credentials.resolve { bucket := "b", key := "k.gz" } []) }
  around :=
    { remote :=
        { heads :=
            [{ outcome := .ok { tag := some "first" } }, { outcome := .ok { tag := some "second" } }]
          gets :=
            [{ outcome := .ok { body := some resetDownload } },
              { outcome := .ok { body := some (.ofBytes Gzip.letterMember) } }] } }

theorem isDownload_resetDownload : resetDownload.IsDownload := by
  refine ⟨rfl, by decide, rfl, Gzip.letterMember.drop 4, [97], ?_, fun impossible => ?_⟩
  · decide +kernel
  · cases impossible

theorem isDownload_letterMember : (Body.ofBytes Gzip.letterMember).IsDownload := by
  refine ⟨rfl, by decide, rfl, [], [97], ?_, fun _ => rfl⟩
  decide +kernel

theorem bringDownloads_interrupted : BringDownloads interrupted.around.remote.gets := by
  have all : downloadsOf interrupted.around.remote.gets =
      [(resetDownload, none), (.ofBytes Gzip.letterMember, none)] := rfl
  intro body encoding member
  rw [all] at member
  rcases List.mem_cons.mp member with same | member
  · cases same
    exact ⟨isDownload_resetDownload, by decide +kernel⟩
  · cases List.mem_singleton.mp member
    exact ⟨isDownload_letterMember, by decide +kernel⟩

/-- Whether a poll returned content. -/
def returnedContent (result : PollEnd) : Bool :=
  match result with
  | .ok content _ => content.isSome
  | .error _ _ => false

/-- The reset turns decoding off, and the other version is handed on as it was served. -/
theorem decoding_given_up_after_reset :
    exists heads gets, Given interrupted (interrupted.run [.poll]) heads gets ∧
      BringDownloads gets ∧ BringMistaken gets ∧ (interrupted.run [.poll]).HasGivenUp ∧
      exists after, Watcher.poll (interrupted.run [.poll]) =
        .ok (some (.raw (.ofBytes Gzip.letterMember))) after := by
  have trusting : ¬ interrupted.HasGivenUp := fun givenUp => by cases givenUp
  have compressed : expectsCompressed interrupted.watcher.target.key = true := by decide +kernel
  have givenUp : (interrupted.run [.poll]).watcher.progress.decodeState = .disabled := by
    decide +kernel
  have left : (interrupted.run [.poll]).around.remote.gets.length = 1 := by decide +kernel
  rcases interrupted.run_accounts [.poll] compressed with ⟨heads, gets, given, _⟩
  have replies : [{ outcome := .ok { body := some resetDownload } }] ++
      [{ outcome := .ok { body := some (.ofBytes Gzip.letterMember) } }] =
      gets ++ (interrupted.run [.poll]).around.remote.gets := given.gets
  have last := List.append_inj_right' replies left.symm
  have next : (interrupted.run [.poll]).getReply.download? =
      some (.ofBytes Gzip.letterMember, none) := by
    unfold Scene.getReply Remote.get
    rw [← last]
    rfl
  have downloads : BringDownloads gets := by
    have all := bringDownloads_interrupted
    rw [given.gets] at all
    exact all.parts.1
  rcases decoding_given_up_iff trusting compressed [.poll] given downloads with ⟨law, later⟩
  have mistaken := law.mp givenUp
  refine ⟨heads, gets, given, downloads, mistaken, givenUp, ?_⟩
  have returns : returnedContent (Watcher.poll (interrupted.run [.poll])) = true := by decide +kernel
  cases polled : Watcher.poll (interrupted.run [.poll]) with
  | error failure after =>
      rw [polled] at returns
      cases returns
  | ok content after =>
      rw [polled] at returns
      rcases Option.isSome_iff_exists.mp returns with ⟨content, rfl⟩
      rcases later _ _ content after next isDownload_letterMember (by decide +kernel) polled with
        ⟨_, same⟩ | ⟨trusted, _⟩
      · exact ⟨after, by rw [same]⟩
      · exact absurd mistaken trusted

end ObjectWatch
