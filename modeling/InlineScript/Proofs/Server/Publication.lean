import InlineScript.Proofs.Check.Order
import InlineScript.Proofs.Server.History

/-!
What a server has said last about a document: nothing is wrong with a document that is not open, and
for an open one the list goes with its last version and, imports apart, with its text.
-/

namespace InlineScript

/-! ## Findings -/

namespace Finding

/-- Findings that are dropped anyway do not change the order of the others. -/
theorem filter_sort_append {keep : Finding → Bool} {dropped : List Finding}
    (notKept : ∀ finding ∈ dropped, keep finding = false) (others : List Finding) :
    (sort (dropped ++ others)).filter keep = (sort others).filter keep := by
  induction dropped with
  | nil => rfl
  | cons finding rest ih =>
      -- A finding is put somewhere into the sorted list of the others.
      obtain ⟨before, after, whole, without, _⟩ :=
        List.mergeSort_cons start_trans start_total finding (rest ++ others)
      have same : (sort (finding :: (rest ++ others))).filter keep =
          (sort (rest ++ others)).filter keep := by
        rw [sort, sort, whole, without, List.filter_append, List.filter_append,
          List.filter_cons_of_neg (by simp [notKept finding List.mem_cons_self])]
      rw [List.cons_append, same]
      exact ih fun other member => notKept other (List.mem_cons_of_mem _ member)

end Finding

/-- A diagnostic that is not about an import without a file. -/
def Diagnostic.isOwn (diagnostic : Diagnostic) : Bool :=
  diagnostic.code != some "2307"

namespace Document

variable (parser : Parser) (doc : Document)

/-- What is wrong with a document whatever its imports mean. -/
def ownDiagnostics : List Diagnostic :=
  (doc.diagnosticsWith parser fun _ => []).filter Diagnostic.isOwn

theorem isOwn_unresolvedImports {text : Text.Cuts}
    {resolve : List String → List (Option Module.Resolved)} {root : Tree} {finding : Finding}
    (member : finding ∈ Check.unresolvedImports text resolve root) :
    (doc.diagnostic doc.dialect finding).isOwn = false := by
  obtain ⟨⟨⟨node, name⟩, number⟩, _, rfl⟩ := List.mem_map.mp member
  have code : toString Check.notFoundCode = "2307" := rfl
  change (some (toString Check.notFoundCode) != some "2307") = false
  rw [code]
  rfl

theorem filter_semantic (resolve : List String → List (Option Module.Resolved))
    (file : SourceFile) :
    (Finding.sort (Check.semantic resolve file)).filter
        (fun finding => (doc.diagnostic doc.dialect finding).isOwn) =
      (Finding.sort (Check.semantic (fun _ => []) file)).filter
        fun finding => (doc.diagnostic doc.dialect finding).isOwn := by
  unfold Check.semantic
  split
  · rfl
  · simp only [Finding.sort_sort, List.append_assoc,
      Finding.filter_sort_append fun finding member => doc.isOwn_unresolvedImports member]

/-- What imports mean shows in no other diagnostics. -/
theorem filter_diagnosticsWith (resolve : List String → List (Option Module.Resolved)) :
    (doc.diagnosticsWith parser resolve).filter Diagnostic.isOwn = doc.ownDiagnostics parser := by
  have semantic := doc.filter_semantic resolve (doc.source parser "0")
  unfold ownDiagnostics diagnosticsWith SourceFile.problems
  rw [List.filter_map, List.filter_map, List.filter_append, List.filter_append]
  simp only [Function.comp_def, semantic]

/-- The version of a document has no part in what is wrong with it. -/
theorem ownDiagnostics_ofHost (path : Path) (host : List Char) (version : Nat) :
    (ofHost path host version).ownDiagnostics parser =
      (ofHost path host 0).ownDiagnostics parser := by
  rw [ofHost_version 0]
  rfl

end Document

/-! ## Notices -/

/-- The list and the version that a notice publishes under a name. -/
def Notice.published? (name : String) : Notice → Option (List Diagnostic × Option Nat)
  | log _ => none
  | publish other found version => if other = name then some (found, version) else none

namespace Server

/-- The last that was published under a name. -/
def lastPublished (name : String) (notices : List Notice) : Option (List Diagnostic × Option Nat) :=
  (notices.filterMap (Notice.published? name)).getLast?

theorem lastPublished_append (name : String) (earlier later : List Notice) :
    lastPublished name (earlier ++ later) =
      (lastPublished name later).or (lastPublished name earlier) := by
  rw [lastPublished, List.filterMap_append, List.getLast?_append]
  rfl

/-- All that a server says to messages one after another. -/
def noticesOf (parser : Parser) (server : Server) : List (Disk × Message) → List Notice
  | [] => []
  | (disk, message) :: rest =>
      let (_, notices, next) := handle parser disk server message
      notices ++ noticesOf parser next rest

/-- What was last said about a document goes with what was told about it. -/
def Tracks (parser : Parser) (uri : Uri) (told : Option (String × Int))
    (last : Option (List Diagnostic × Option Nat)) : Prop :=
  match told with
  | none => ∀ published ∈ last, published.1 = []
  | some (text, version) => ∃ found, last = some (found, some version.toNat) ∧
      found.filter Diagnostic.isOwn =
        (Document.ofHost uri.path text.toList 0).ownDiagnostics parser

section

variable {parser : Parser} {disk : Disk} {server : Server} {uri other : Uri} {bound : Nat}
  {told : Option (String × Int)} {last : Option (List Diagnostic × Option Nat)}

theorem publish_congr (same : other.render = uri.render) :
    publish parser disk server other = publish parser disk server uri := by
  unfold publish
  rw [same]

theorem lastPublished_publish_of_ne (different : other.render ≠ uri.render) :
    lastPublished uri.render (publish parser disk server other).1 = none := by
  unfold publish
  split
  · rfl
  · simp [lastPublished, Notice.published?, different]

theorem shownVersion?_versionOf {version : Int} (isVersion : Message.IsVersion version) :
    shownVersion? (versionOf version) = some version.toNat := by
  have upper := isVersion.2
  unfold shownVersion? versionOf
  rw [if_pos (by omega)]

/-- What is published about an open document goes with it. -/
theorem tracks_publish (coherent : server.Coherent parser bound)
    (small : bound ≤ Table.versionLimit)
    (shows : server.documents[uri.render]? = told.map (documentOf uri))
    (isVersion : ∀ text version, told = some (text, version) → Message.IsVersion version)
    (before : told = none → Tracks parser uri none last) :
    Tracks parser uri told
      ((lastPublished uri.render (publish parser disk server uri).1).or last) := by
  unfold publish
  cases told with
  | none =>
      rw [shows]
      exact before rfl
  | some told =>
      obtain ⟨text, version⟩ := told
      obtain ⟨active, _, _, _, answer, _⟩ := coherent.session.diagnostics disk
        (documentOf uri (text, version)) (coherent.version_lt small _)
      have own := (Document.filter_diagnosticsWith parser (documentOf uri (text, version))
        ((active.host disk).resolve (documentOf uri (text, version)).path.normalize)).trans
        (Document.ownDiagnostics_ofHost parser uri.path text.toList (versionOf version))
      rw [shows, Option.map_some]
      dsimp only
      rw [answer]
      refine ⟨_, ?_, own⟩
      have shown := shownVersion?_versionOf (isVersion text version rfl)
      simp [lastPublished, Notice.published?, documentOf, Document.version_ofHost, shown]

/-- What a server says to a message keeps track of a document. -/
theorem tracks_handle (coherent : server.Coherent parser bound) (small : bound ≤ Table.versionLimit)
    (isRead : uri.IsRead) {message : Message} (received : message.IsReceived)
    (shows : server.documents[uri.render]? = told.map (documentOf uri))
    (tracks : Tracks parser uri told last) :
    Tracks parser uri (message.tell uri told)
      ((lastPublished uri.render (handle parser disk server message).2.1).or last) := by
  cases message with
  | start folders root => exact tracks
  | ready => exact tracks
  | opened other text version =>
      dsimp only [handle, opened]
      have after := getElem?_put_told isRead received.1 text version shows
      by_cases same : other.render = uri.render
      · rw [Message.tell, if_pos same] at after ⊢
        rw [publish_congr same]
        refine tracks_publish (coherent.put received.2 other text) small after ?_ ?_
        · intro _ _ told
          cases told
          exact received.2
        · intro closed
          contradiction
      · rw [lastPublished_publish_of_ne same, Message.tell, if_neg same]
        exact tracks
  | changed other texts version =>
      dsimp only [handle, changed]
      cases texted : texts.getLast? with
      | none =>
          rw [tell_changed_of_none texted]
          exact tracks
      | some text =>
          dsimp only
          have after := getElem?_change_told other texted version shows
          by_cases same : other.render = uri.render
          · have telling : (Message.changed other texts version).tell uri told =
                told.map fun _ => (text, version) := by
              rw [Message.tell, if_pos same, texted]
              rfl
            rw [telling] at after ⊢
            rw [publish_congr same]
            refine tracks_publish (coherent.change received.2 other text) small after ?_ ?_
            · intro _ _ told
              obtain ⟨_, _, made⟩ := Option.map_eq_some_iff.mp told
              cases made
              exact received.2
            · intro closed
              rwa [Option.map_eq_none_iff.mp closed] at tracks
          · rw [lastPublished_publish_of_ne same, Message.tell, if_neg same]
            exact tracks
  | closed other =>
      dsimp only [handle, closed, Message.tell]
      by_cases same : other.render = uri.render
      · simp [lastPublished, Notice.published?, same, Tracks]
      · simpa [lastPublished, Notice.published?, same] using tracks
  | hover other position => exact tracks
  | format other => exact tracks
  | shutdown => exact tracks

theorem tracks_noticesOf (coherent : server.Coherent parser bound) (isRead : uri.IsRead)
    {messages : List (Disk × Message)} (received : ∀ message ∈ messages, message.2.IsReceived)
    (small : bound + messages.length ≤ Table.versionLimit)
    (shows : server.documents[uri.render]? = told.map (documentOf uri))
    (tracks : Tracks parser uri told last) :
    Tracks parser uri (messages.foldl (fun before message => message.2.tell uri before) told)
      ((lastPublished uri.render (noticesOf parser server messages)).or last) := by
  induction messages generalizing server told last bound with
  | nil => exact tracks
  | cons message rest ih =>
      rw [List.length_cons] at small
      have isReceived := received message List.mem_cons_self
      rw [noticesOf, lastPublished_append, Option.or_assoc]
      exact ih (coherent.handle (by omega) message.1 isReceived)
        (fun other member => received other (List.mem_cons_of_mem _ member)) (by omega)
        (documents_handle isRead isReceived shows)
        (tracks_handle coherent (by omega) isRead isReceived shows tracks)

end

/-- A change of a document that is not open, or without texts, is passed over. -/
theorem handle_changed_of_idle {parser : Parser} {disk : Disk} {server : Server} {uri : Uri}
    {texts : List String} (idle : server.documents[uri.render]? = none ∨ texts = [])
    (version : Int) :
    handle parser disk server (.changed uri texts version) = (.nothing, [], server) := by
  dsimp only [handle, changed]
  split
  · rfl
  · rename_i text last
    have closed : server.documents[uri.render]? = none := by
      rcases idle with closed | empty
      · exact closed
      · simp [empty] at last
    simp only [Store.change, closed, publish]

/-- Publications track the open documents. Take any messages to a server, and a URI. The last list
that was published for it is empty if the URI is not open. If it is open, a list was published, the
last one goes with the version that was told last, and but for imports without files it has just what
is wrong with the path and the text. A change of a document that is not open, or without texts, is
passed over. -/
theorem publications_track_documents (parser : Parser) (dir : Path)
    (messages : List (Disk × Message)) (short : messages.length < 9223372036854775808)
    (received : ∀ message ∈ messages, message.2.IsReceived) (uri : Uri) (isRead : uri.IsRead) :
    (Message.lastTold uri messages = none →
      ∀ published ∈ lastPublished uri.render (noticesOf parser (ofDirectory dir) messages),
        published.1 = []) ∧
    (∀ text version, Message.lastTold uri messages = some (text, version) →
      ∃ found,
        lastPublished uri.render (noticesOf parser (ofDirectory dir) messages) =
          some (found, some version.toNat) ∧
        found.filter (·.code != some "2307") =
          (Document.ofHost uri.path text.toList 0).ownDiagnostics parser) ∧
    ∀ disk texts version, Message.lastTold uri messages = none ∨ texts = [] →
      handle parser disk (handleAll parser (ofDirectory dir) messages)
          (.changed uri texts version) =
        (.nothing, [], handleAll parser (ofDirectory dir) messages) := by
  have limit : Table.versionLimit = 18446744073709551615 := rfl
  have tracks : Tracks parser uri (Message.lastTold uri messages)
      ((lastPublished uri.render (noticesOf parser (ofDirectory dir) messages)).or none) :=
    tracks_noticesOf (Coherent.ofDirectory parser dir) isRead received (by omega)
      (by simp [ofDirectory]) (fun _ published => nomatch published)
  rw [Option.or_none] at tracks
  refine ⟨?_, ?_, ?_⟩
  · intro closed
    rwa [closed] at tracks
  · intro text version opened
    rwa [opened] at tracks
  · intro disk texts version idle
    refine handle_changed_of_idle (idle.imp_left fun closed => ?_) version
    rw [documents_ofDirectory parser dir received isRead, closed, Option.map_none]

private def typedUri : Uri where
  scheme := "file".toList
  authority := some Uri.noMachine
  rawPath := "/p.ts".toList
  query := none
  fragment := none

/-- A document is closed, changed in vain and opened again with a negative version. -/
private def reopening : List (Disk × Message) :=
  [(scriptDisk, .opened typedUri usingText 7),
    (scriptDisk, .closed typedUri), (scriptDisk, .changed typedUri [usingText] 8),
    (scriptDisk, .shutdown), (scriptDisk, .opened typedUri misfitText (-2))]

theorem publications_track_documents_reopening :
    Message.lastTold typedUri reopening = some (misfitText, -2) ∧
      ∃ found,
        lastPublished typedUri.render
            (noticesOf scriptParser (ofDirectory Path.root) reopening) =
          some (found, some 0) ∧
        (found.filter (·.code != some "2307")).map (·.code) = [some "2322"] := by
  have isRead : typedUri.IsRead := ⟨"file:///p.ts", by decide +kernel⟩
  have told : Message.lastTold typedUri reopening = some (misfitText, -2) := by decide +kernel
  have received : ∀ message ∈ reopening, message.2.IsReceived := by
    intro message member
    simp only [reopening, List.mem_cons, List.not_mem_nil, or_false] at member
    rcases member with rfl | rfl | rfl | rfl | rfl
    · exact ⟨isRead, by decide⟩
    · exact isRead
    · exact ⟨isRead, by decide⟩
    · trivial
    · exact ⟨isRead, by decide⟩
  obtain ⟨found, published, own⟩ := (publications_track_documents scriptParser Path.root
    reopening (by decide) received typedUri isRead).2.1 _ _ told
  -- There is one problem of the script's own, so that their order does not matter.
  have alike : ((found.filter (·.code != some "2307")).map (·.code)).Perm [some "2322"] := by
    rw [own, Document.ownDiagnostics]
    refine (((Document.diagnosticsWith_perm _ _ _).filter _).map _).trans (.of_eq ?_)
    decide +kernel
  exact ⟨told, found, published, List.perm_singleton.mp alike⟩

end Server

end InlineScript
