import InlineScript.Proofs.Document.Script
import InlineScript.Proofs.Session.Transparency
import InlineScript.Proofs.Uri.WrittenForm
import InlineScript.Server.Basic

/-!
What a server keeps of the messages it got. An open document has the text that it was opened with or
that the last change gave it, and the session stays coherent, so what is told about a position is a
matter of the path and the text alone, whatever came before.
-/

namespace InlineScript

/-! ## Messages -/

namespace Message

/-- A version of thirty-two bits. -/
def IsVersion (version : Int) : Prop :=
  -2147483648 ≤ version ∧ version ≤ 2147483647

instance (version : Int) : Decidable (IsVersion version) :=
  inferInstanceAs (Decidable (_ ∧ _))

/-- A message as it is received: its URI was read, and its version has thirty-two bits. -/
def IsReceived : Message → Prop
  | opened uri _ version | changed uri _ version => uri.IsRead ∧ IsVersion version
  | closed uri | hover uri _ | format uri => uri.IsRead
  | start _ _ | ready | shutdown => True

/-- The text and the version that a document has after a message, given those it had before. -/
def tell (uri : Uri) (before : Option (String × Int)) : Message → Option (String × Int)
  | opened other text version => if other.render = uri.render then some (text, version) else before
  | changed other texts version =>
      if other.render = uri.render then
        before.map fun kept => (texts.getLast?.map (·, version)).getD kept
      else
        before
  | closed other => if other.render = uri.render then none else before
  | start _ _ | ready | hover _ _ | format _ | shutdown => before

/-- The text and the version of a document after messages one after another, if it is open. -/
def lastTold (uri : Uri) (messages : List (Disk × Message)) : Option (String × Int) :=
  messages.foldl (fun before message => message.2.tell uri before) none

end Message

/-! ## Open documents -/

namespace Store

variable {store : Store} {name : String}

theorem getElem?_put (path : Path) (text : List Char) (version : Nat) (other : String) :
    (store.put name path text version)[other]? =
      if name = other then some (Document.ofHost path text version) else store[other]? := by
  simp only [put, Std.TreeMap.getElem?_insert, Std.compare_eq_iff_eq]

theorem getElem?_change (text : List Char) (version : Nat) (other : String) :
    (store.change name text version)[other]? =
      if name = other then
        store[other]?.map fun doc => Document.ofHost doc.path text version
      else
        store[other]? := by
  unfold change
  split
  · rename_i closed
    split
    · rename_i same
      rw [← same, closed, Option.map_none]
    · rfl
  · rename_i doc found
    simp only [Std.TreeMap.getElem?_insert, Std.compare_eq_iff_eq]
    split
    · rename_i same
      rw [← same, found, Option.map_some]
    · rfl

theorem getElem?_close (other : String) :
    (store.erase name)[other]? = if name = other then none else store[other]? := by
  simp only [Std.TreeMap.getElem?_erase, Std.compare_eq_iff_eq]

end Store

namespace Server

variable {parser : Parser} {disk : Disk} {server : Server} {uri : Uri}

/-- The document that a URI is opened as. -/
def documentOf (uri : Uri) (told : String × Int) : Document :=
  Document.ofHost uri.path told.1.toList (versionOf told.2)

theorem documents_publish : (publish parser disk server uri).2.documents = server.documents := by
  unfold publish
  split <;> rfl

theorem documents_hover {position : Text.Position} :
    (hover parser disk server uri position).2.documents = server.documents := by
  unfold hover
  split <;> rfl

theorem documents_start {folders : List Uri} {root : Option Uri} :
    (start server folders root).documents = server.documents := by
  unfold start
  split <;> rfl

/-- The session goes on with the script of a closed document. -/
theorem closed_server :
    (closed server uri).2 = { server with documents := server.documents.erase uri.render } := by
  unfold closed
  dsimp only
  split <;> rfl

section

variable {told : Option (String × Int)}

theorem getElem?_put_told (isRead : uri.IsRead) {other : Uri} (otherIsRead : other.IsRead)
    (text : String) (version : Int)
    (shows : server.documents[uri.render]? = told.map (documentOf uri)) :
    (server.documents.put other.render other.path text.toList (versionOf version))[uri.render]? =
      ((Message.opened other text version).tell uri told).map (documentOf uri) := by
  rw [Store.getElem?_put, Message.tell]
  split
  · rename_i same
    rw [otherIsRead.path_congr isRead same]
    rfl
  · exact shows

theorem getElem?_change_told (other : Uri) {texts : List String} {text : String}
    (last : texts.getLast? = some text) (version : Int)
    (shows : server.documents[uri.render]? = told.map (documentOf uri)) :
    (server.documents.change other.render text.toList (versionOf version))[uri.render]? =
      ((Message.changed other texts version).tell uri told).map (documentOf uri) := by
  rw [Store.getElem?_change, Message.tell, shows, last]
  split
  · cases told with
    | none => rfl
    | some before =>
        simp only [Option.map_some, documentOf, Document.path_ofHost, Option.getD_some]
  · rfl

/-- A change without texts tells nothing. -/
theorem tell_changed_of_none {other : Uri} {texts : List String} (empty : texts.getLast? = none)
    (version : Int) : (Message.changed other texts version).tell uri told = told := by
  rw [Message.tell, empty]
  split <;> simp

/-- A message leaves a document open with the text that it tells. -/
theorem documents_handle (isRead : uri.IsRead) {message : Message} (received : message.IsReceived)
    (shows : server.documents[uri.render]? = told.map (documentOf uri)) :
    (handle parser disk server message).2.2.documents[uri.render]? =
      (message.tell uri told).map (documentOf uri) := by
  cases message with
  | start folders root =>
      dsimp only [handle, Message.tell]
      rw [documents_start, shows]
  | ready => exact shows
  | opened other text version =>
      dsimp only [handle, opened]
      rw [documents_publish]
      exact getElem?_put_told isRead received.1 text version shows
  | changed other texts version =>
      dsimp only [handle, changed]
      cases last : texts.getLast? with
      | none => rw [tell_changed_of_none last, shows]
      | some text =>
          dsimp only
          rw [documents_publish]
          exact getElem?_change_told other last version shows
  | closed other =>
      dsimp only [handle, Message.tell]
      rw [closed_server, Store.getElem?_close, shows]
      split <;> rfl
  | hover other position =>
      dsimp only [handle, Message.tell]
      rw [documents_hover, shows]
  | format other => exact shows
  | shutdown => exact shows

end

/-- The server after messages one after another, each with the disk as it was at that time. -/
def handleAll (parser : Parser) (server : Server) (messages : List (Disk × Message)) : Server :=
  messages.foldl (fun server message => (handle parser message.1 server message.2).2.2) server

theorem documents_handleAll (isRead : uri.IsRead) {messages : List (Disk × Message)}
    (received : ∀ message ∈ messages, message.2.IsReceived) {told : Option (String × Int)}
    (shows : server.documents[uri.render]? = told.map (documentOf uri)) :
    (handleAll parser server messages).documents[uri.render]? =
      (messages.foldl (fun before message => message.2.tell uri before) told).map
        (documentOf uri) := by
  induction messages generalizing server told with
  | nil => exact shows
  | cons message rest ih =>
      exact ih (fun other member => received other (List.mem_cons_of_mem _ member))
        (documents_handle isRead (received message List.mem_cons_self) shows)

/-! ## Coherence -/

/-- A server whose session is coherent, and in which no version has reached a bound that is greater
than what an editor can send. -/
structure Coherent (parser : Parser) (bound : Nat) (server : Server) : Prop where
  session : server.manager.Coherent parser
  below : server.manager.VersionsBelow bound
  wide : 2147483647 < bound
  versions : ∀ (name : String) (doc : Document), server.documents[name]? = some doc →
    doc.version < bound

namespace Coherent

variable {bound : Nat}

theorem ofDirectory (parser : Parser) (dir : Path) :
    (Server.ofDirectory dir).Coherent parser 2147483648 where
  session := Manager.coherent_of_inactive rfl
  below := Manager.versionsBelow_of_inactive rfl (by decide)
  wide := by decide
  versions name doc found := by
    simp [Server.ofDirectory] at found

theorem later (coherent : server.Coherent parser bound) : server.Coherent parser (bound + 1) where
  session := coherent.session
  below path := Nat.lt_succ_of_lt (coherent.below path)
  wide := Nat.lt_succ_of_lt coherent.wide
  versions name doc found := Nat.lt_succ_of_lt (coherent.versions name doc found)

theorem versionOf_lt (coherent : server.Coherent parser bound) {version : Int}
    (isVersion : Message.IsVersion version) : versionOf version < bound := by
  have wide := coherent.wide
  have upper := isVersion.2
  unfold versionOf
  omega

theorem withDocuments (coherent : server.Coherent parser bound) {documents : Store}
    (versions : ∀ (name : String) (doc : Document), documents[name]? = some doc →
      doc.version < bound) :
    { server with documents }.Coherent parser bound :=
  { coherent with versions }

theorem version_lt (coherent : server.Coherent parser bound) (small : bound ≤ Table.versionLimit)
    (path : Path) : server.manager.version path < Table.versionLimit :=
  Nat.lt_of_lt_of_le (coherent.below path) small

theorem publish (coherent : server.Coherent parser bound) (small : bound ≤ Table.versionLimit)
    (disk : Disk) (uri : Uri) :
    (Server.publish parser disk server uri).2.Coherent parser (bound + 1) := by
  unfold Server.publish
  split
  · exact coherent.later
  · rename_i doc found
    have requested := coherent.versions _ _ found
    obtain ⟨_, _, _, _, _, session⟩ := coherent.session.diagnostics disk doc
      (coherent.version_lt small doc.path)
    exact { coherent.later with
      session
      below := coherent.below.diagnostics (Nat.le_of_lt requested) }

theorem put (coherent : server.Coherent parser bound) {version : Int}
    (isVersion : Message.IsVersion version) (uri : Uri) (text : String) :
    { server with
      documents := server.documents.put uri.render uri.path text.toList
        (versionOf version) }.Coherent parser bound := by
  refine coherent.withDocuments fun name doc found => ?_
  rw [Store.getElem?_put] at found
  split at found
  · cases found
    rw [Document.version_ofHost]
    exact coherent.versionOf_lt isVersion
  · exact coherent.versions name doc found

theorem change (coherent : server.Coherent parser bound) {version : Int}
    (isVersion : Message.IsVersion version) (uri : Uri) (text : String) :
    { server with
      documents := server.documents.change uri.render text.toList
        (versionOf version) }.Coherent parser bound := by
  refine coherent.withDocuments fun name doc found => ?_
  rw [Store.getElem?_change] at found
  split at found
  · obtain ⟨before, _, rfl⟩ := Option.map_eq_some_iff.mp found
    rw [Document.version_ofHost]
    exact coherent.versionOf_lt isVersion
  · exact coherent.versions name doc found

theorem closed (coherent : server.Coherent parser bound) (uri : Uri) :
    (Server.closed server uri).2.Coherent parser bound := by
  rw [closed_server]
  refine coherent.withDocuments fun name doc found => ?_
  rw [Store.getElem?_close] at found
  split at found
  · contradiction
  · exact coherent.versions name doc found

theorem hover (coherent : server.Coherent parser bound) (small : bound ≤ Table.versionLimit)
    (disk : Disk) (uri : Uri) (position : Text.Position) :
    (Server.hover parser disk server uri position).2.Coherent parser (bound + 1) := by
  unfold Server.hover
  split
  · exact coherent.later
  · rename_i doc found
    have requested := coherent.versions _ _ found
    have answered := coherent.session.hover disk doc
      (coherent.version_lt small doc.path) position
    exact { coherent.later with
      session := answered.2
      below := coherent.below.hover (Nat.le_of_lt requested) position }

theorem restart (coherent : server.Coherent parser bound) {manager : Manager ScriptEngine}
    (inactive : manager.active = none) : { server with manager }.Coherent parser bound :=
  { coherent with
    session := Manager.coherent_of_inactive inactive
    below := Manager.versionsBelow_of_inactive inactive (Nat.zero_lt_of_lt coherent.wide) }

/-- A message raises versions by one at most. -/
theorem handle (coherent : server.Coherent parser bound) (small : bound ≤ Table.versionLimit)
    (disk : Disk) {message : Message} (received : message.IsReceived) :
    (Server.handle parser disk server message).2.2.Coherent parser (bound + 1) := by
  cases message with
  | start folders root =>
      dsimp only [Server.handle, Server.start]
      split
      · exact (coherent.restart rfl).later
      · exact coherent.later
  | ready => exact coherent.later
  | opened uri text version => exact (coherent.put received.2 uri text).publish small disk uri
  | changed uri texts version =>
      dsimp only [Server.handle, Server.changed]
      split
      · exact coherent.later
      · exact (coherent.change received.2 uri _).publish small disk uri
  | closed uri => exact (coherent.closed uri).later
  | hover uri position => exact coherent.hover small disk uri position
  | format uri => exact coherent.later
  | shutdown => exact (coherent.restart server.manager.reset_active).later

theorem handleAll (coherent : server.Coherent parser bound) {messages : List (Disk × Message)}
    (received : ∀ message ∈ messages, message.2.IsReceived)
    (small : bound + messages.length ≤ Table.versionLimit) :
    (Server.handleAll parser server messages).Coherent parser (bound + messages.length) := by
  induction messages generalizing server bound with
  | nil => exact coherent
  | cons message rest ih =>
      rw [List.length_cons] at small ⊢
      have next := coherent.handle (by omega) message.1 (received message List.mem_cons_self)
      have after := ih next (fun other member => received other (List.mem_cons_of_mem _ member))
        (by omega)
      rw [Nat.add_right_comm, Nat.add_assoc] at after
      exact after

end Coherent

/-! ## Hover -/

/-- What is told about a position is a matter of the path and the text. -/
theorem hoverAt_documentOf (parser : Parser) (uri : Uri) (told : String × Int)
    (position : Text.Position) :
    (documentOf uri told).hoverAt parser position =
      (Document.ofHost uri.path told.1.toList 0).hoverAt parser position := by
  rw [documentOf, Document.ofHost_version 0]
  rfl

theorem handle_hover {bound : Nat} (coherent : server.Coherent parser bound)
    (small : bound ≤ Table.versionLimit) {told : String × Int}
    (shows : server.documents[uri.render]? = some (documentOf uri told)) (disk : Disk)
    (position : Text.Position) :
    (handle parser disk server (.hover uri position)).1 =
      .hover ((Document.ofHost uri.path told.1.toList 0).hoverAt parser position) := by
  have answered := coherent.session.hover disk (documentOf uri told)
    (coherent.version_lt small _) position
  dsimp only [handle, hover]
  rw [shows]
  dsimp only
  rw [answered.1, hoverAt_documentOf]

theorem handleAll_ofDirectory (parser : Parser) (dir : Path) {messages : List (Disk × Message)}
    (short : messages.length < 9223372036854775808)
    (received : ∀ message ∈ messages, message.2.IsReceived) :
    ∃ bound ≤ Table.versionLimit,
      (handleAll parser (ofDirectory dir) messages).Coherent parser bound := by
  have limit : Table.versionLimit = 18446744073709551615 := rfl
  exact ⟨2147483648 + messages.length, by omega,
    (Coherent.ofDirectory parser dir).handleAll received (by omega)⟩

theorem documents_ofDirectory (parser : Parser) (dir : Path) {messages : List (Disk × Message)}
    (received : ∀ message ∈ messages, message.2.IsReceived) (isRead : uri.IsRead) :
    (handleAll parser (ofDirectory dir) messages).documents[uri.render]? =
      (Message.lastTold uri messages).map (documentOf uri) :=
  documents_handleAll isRead received (by simp [ofDirectory])

/-- What is told about a position of an open document after any messages. -/
theorem hover_handleAll (parser : Parser) (dir : Path) {messages : List (Disk × Message)}
    (short : messages.length < 9223372036854775808)
    (received : ∀ message ∈ messages, message.2.IsReceived) (isRead : uri.IsRead) {text : String}
    (opened : (Message.lastTold uri messages).map Prod.fst = some text) (disk : Disk)
    (position : Text.Position) :
    (handle parser disk (handleAll parser (ofDirectory dir) messages) (.hover uri position)).1 =
      .hover ((Document.ofHost uri.path text.toList 0).hoverAt parser position) := by
  obtain ⟨bound, small, coherent⟩ := handleAll_ofDirectory parser dir short received
  obtain ⟨told, found, rfl⟩ := Option.map_eq_some_iff.mp opened
  refine handle_hover coherent small ?_ disk position
  rw [documents_ofDirectory parser dir received isRead, found, Option.map_some]

/-- Hover does not know the past. Take two servers that got any messages, on whatever disks and in
whatever directories they were started, and a document that is open in both with the same text. Then
both say the same about each of its positions. -/
theorem hover_historyIndependent (parser : Parser) (dir otherDir : Path)
    (messages otherMessages : List (Disk × Message))
    (short : messages.length < 9223372036854775808)
    (otherShort : otherMessages.length < 9223372036854775808)
    (received : ∀ message ∈ messages, message.2.IsReceived)
    (otherReceived : ∀ message ∈ otherMessages, message.2.IsReceived)
    (uri : Uri) (isRead : uri.IsRead) (text : String)
    (opened : (Message.lastTold uri messages).map Prod.fst = some text)
    (otherOpened : (Message.lastTold uri otherMessages).map Prod.fst = some text)
    (disk otherDisk : Disk) (position : Text.Position) :
    (handle parser disk (handleAll parser (ofDirectory dir) messages) (.hover uri position)).1 =
      (handle parser otherDisk (handleAll parser (ofDirectory otherDir) otherMessages)
        (.hover uri position)).1 := by
  rw [hover_handleAll parser dir short received isRead opened,
    hover_handleAll parser otherDir otherShort otherReceived isRead otherOpened]

private def fileUri (path : String) : Uri where
  scheme := "file".toList
  authority := some Uri.noMachine
  rawPath := path.toList
  query := none
  fragment := none

private def appUri : Uri := fileUri "/a.js"

private def otherUri : Uri := fileUri "/b.ts"

/-- A document is opened as it is. -/
private def plainMessages : List (Disk × Message) :=
  [(scriptDisk, .opened appUri usingText 3)]

/-- A document gets its text late, with a smaller version and after a restart, and another one is
open beside it. -/
private def lateMessages : List (Disk × Message) :=
  [(scriptDisk, .opened appUri "" 7), (scriptDisk, .opened otherUri misfitText 1),
    (scriptDisk, .hover otherUri ⟨0, 17⟩), (scriptDisk, .shutdown), (scriptDisk, .start [] none),
    (scriptDisk, .changed appUri ["", usingText] (-1))]

theorem hover_historyIndependent_lateMessages :
    (Message.lastTold appUri plainMessages).map Prod.fst = some usingText ∧
      (Message.lastTold appUri lateMessages).map Prod.fst = some usingText ∧
      (handle scriptParser scriptDisk
        (handleAll scriptParser (ofDirectory Path.root) plainMessages)
        (.hover appUri ⟨0, 6⟩)).1 =
        .hover (some ⟨⟨⟨0, 6⟩, ⟨0, 7⟩⟩, "js", "let a: any", none⟩) ∧
      (handle scriptParser scriptDisk
        (handleAll scriptParser (ofDirectory Path.root) plainMessages)
        (.hover appUri ⟨0, 6⟩)).1 =
      (handle scriptParser ((FileTree.dir []).disk Path.root)
        (handleAll scriptParser (ofDirectory (Path.ofText "/x")) lateMessages)
        (.hover appUri ⟨0, 6⟩)).1 := by
  have isRead : appUri.IsRead := ⟨"file:///a.js", by decide +kernel⟩
  have otherIsRead : otherUri.IsRead := ⟨"file:///b.ts", by decide +kernel⟩
  have opened : (Message.lastTold appUri plainMessages).map Prod.fst = some usingText := by
    decide +kernel
  have otherOpened : (Message.lastTold appUri lateMessages).map Prod.fst = some usingText := by
    decide +kernel
  have received : ∀ message ∈ plainMessages, message.2.IsReceived := by
    intro message member
    rw [List.mem_singleton.mp member]
    exact ⟨isRead, by decide⟩
  have otherReceived : ∀ message ∈ lateMessages, message.2.IsReceived := by
    intro message member
    simp only [lateMessages, List.mem_cons, List.not_mem_nil, or_false] at member
    rcases member with rfl | rfl | rfl | rfl | rfl | rfl
    · exact ⟨isRead, by decide⟩
    · exact ⟨otherIsRead, by decide⟩
    · exact otherIsRead
    · trivial
    · trivial
    · exact ⟨isRead, by decide⟩
  have told : (Document.ofHost appUri.path usingText.toList 0).hoverAt scriptParser ⟨0, 6⟩ =
      some ⟨⟨⟨0, 6⟩, ⟨0, 7⟩⟩, "js", "let a: any", none⟩ := by decide +kernel
  refine ⟨opened, otherOpened, ?_, ?_⟩
  · rw [hover_handleAll scriptParser _ (by decide) received isRead opened, told]
  · exact hover_historyIndependent scriptParser _ _ plainMessages lateMessages (by decide)
      (by decide) received otherReceived appUri isRead _ opened otherOpened scriptDisk _ ⟨0, 6⟩

end Server

end InlineScript
