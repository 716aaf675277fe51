import Nourgomla.Library.Dart
import Nourgomla.Library.Documents
import Nourgomla.Library.Interleaving
import Nourgomla.Library.Machine

set_option autoImplicit false

/-! # The chat

Every user has a copy of each of his conversations, and every message is written twice: into the sender's copy,
and into the receiver's. A text also makes its sender a contact, in between. The three writes of a text wait for each
other; the two of an image do not. `chat` lets the writes of any number of devices interleave. -/

namespace Nourgomla

def TIMESTAMP_FIELD : String := "timestamp"
def CHATS_COLLECTION : String := "chats"
def CONTACTS_COLLECTION : String := "contacts"

structure Timestamp where
  seconds : Int
  nanoseconds : Nat
deriving DecidableEq, Repr

instance : LE Timestamp :=
  ⟨fun t t' => t.seconds < t'.seconds ∨ t.seconds = t'.seconds ∧ t.nanoseconds ≤ t'.nanoseconds⟩

theorem Timestamp.le_iff {t t' : Timestamp} :
    t ≤ t' ↔ t.seconds < t'.seconds ∨ t.seconds = t'.seconds ∧ t.nanoseconds ≤ t'.nanoseconds := Iff.rfl

/-- A variable of type `String` takes a dynamic value that is a string or null. -/
def asString : FieldValue → Except DartError (Option String)
  | .null => .ok none
  | .string s => .ok (some s)
  | .timestamp _ _ => .error .typeError

def asTimestamp : FieldValue → Except DartError (Option Timestamp)
  | .null => .ok none
  | .string _ => .error .typeError
  | .timestamp seconds nanoseconds => .ok (some ⟨seconds, nanoseconds⟩)

def ofString : Option String → FieldValue
  | some s => .string s
  | none => .null

def ofTimestamp : Option Timestamp → FieldValue
  | some t => .timestamp t.seconds t.nanoseconds
  | none => .null

@[simp] theorem asString_null : asString .null = .ok none := rfl

@[simp] theorem asString_ofString (s : Option String) : asString (ofString s) = .ok s := by
  cases s <;> rfl

@[simp] theorem asTimestamp_ofTimestamp (t : Option Timestamp) : asTimestamp (ofTimestamp t) = .ok t := by
  cases t <;> rfl

theorem key_ofTimestamp_le_iff {t t' : Timestamp} :
    (ofTimestamp (some t)).key ≤ (ofTimestamp (some t')).key ↔ t ≤ t' := by
  simp only [ofTimestamp, FieldValue.key, Prod.Lex.toLex_le_toLex, Timestamp.le_iff, lt_irrefl, le_refl, and_true,
    true_and, false_or]
  rw [← le_iff_lt_or_eq]

/-! ## Messages -/

structure Message where
  senderId : Option String := none
  senderName : Option String := none
  senderPhone : Option String := none
  receiverId : Option String := none
  type : Option String := none
  message : Option String := none
  timestamp : Option Timestamp := none
  photoUrl : Option String := none
deriving DecidableEq, Repr

namespace Message

def toMap (m : Message) : Document :=
  [("senderId", ofString m.senderId), ("receiverId", ofString m.receiverId), ("type", ofString m.type),
    ("message", ofString m.message), ("timestamp", ofTimestamp m.timestamp)]

def toImageMap (m : Message) : Document :=
  [("senderId", ofString m.senderId), ("receiverId", ofString m.receiverId), ("type", ofString m.type),
    ("message", ofString m.message), ("timestamp", ofTimestamp m.timestamp), ("photoUrl", ofString m.photoUrl)]

def fromMap (map : Document) : Except DartError Message := do
  let senderId ← asString (map.get "senderId")
  let receiverId ← asString (map.get "receiverId")
  let type ← asString (map.get "type")
  let message ← asString (map.get "message")
  let timestamp ← asTimestamp (map.get "timestamp")
  let photoUrl ← asString (map.get "photoUrl")
  return { senderId, receiverId, type, message, timestamp, photoUrl }

/-- What the store keeps of a message: not the sender's name and phone. -/
def kept (m : Message) : Message := { m with senderName := none, senderPhone := none }

theorem fromMap_toImageMap (m : Message) : fromMap m.toImageMap = .ok m.kept := by
  simp [fromMap, toImageMap, kept, Document.get, List.lookup_cons, bind, Except.bind, pure, Except.pure]

/-- A text has no image; its map leaves the field out. -/
theorem fromMap_toMap (m : Message) : fromMap m.toMap = .ok { m.kept with photoUrl := none } := by
  simp [fromMap, toMap, kept, Document.get, List.lookup_cons, bind, Except.bind, pure, Except.pure]

end Message

structure Contact where
  id : Option String
  name : Option String
  phone : Option String
deriving DecidableEq, Repr

def Contact.fromJson (json : Document) : Except DartError Contact := do
  let id ← asString (json.get "id")
  let name ← asString (json.get "name")
  let phone ← asString (json.get "phone")
  return { id, name, phone }

/-! ## The calls -/

namespace ChatServices

/-- `_chats.doc(owner).collection(other)` -/
def conversation (owner other : String) : List String := [CHATS_COLLECTION, owner, other]

def contacts : List String := [CONTACTS_COLLECTION]

/-- The map that makes the sender of `m` a contact. -/
def contactMap (m : Message) : Document :=
  [("id", ofString m.senderId), (TIMESTAMP_FIELD, ofTimestamp m.timestamp), ("name", ofString m.senderName),
    ("phone", ofString m.senderPhone)]

/-- The writes of a text, each of which is awaited before the next. -/
def addMessageToDB (m : Message) : List DocumentWrite :=
  match m.senderId, m.receiverId with
  | some senderId, some receiverId =>
    [.add (conversation senderId receiverId) m.toMap,
      .set contacts senderId (contactMap m),
      .add (conversation receiverId senderId) m.toMap]
  | _, _ => [] -- the screen fills in both

def setImageMsg (url : Option String) (receiverId senderId : String) (now : Timestamp) : Message :=
  { photoUrl := url, receiverId := some receiverId, senderId := some senderId, message := some "Image",
    type := some "Image", timestamp := some now }

/-- The two writes of an image are begun together. -/
def addImageToDB (m : Message) : List (List DocumentWrite) :=
  match m.senderId, m.receiverId with
  | some senderId, some receiverId =>
    [[.add (conversation senderId receiverId) m.toImageMap],
      [.add (conversation receiverId senderId) m.toImageMap]]
  | _, _ => []

def getContacts (store : DocumentStore) : Except DartError (List Contact) :=
  (store.orderBy contacts TIMESTAMP_FIELD false).mapM Contact.fromJson

end ChatServices

/-! ## The screen -/

/-- A conversation that is open: the user's own id and that of the other. -/
structure ChatScreen where
  currentUserId : String
  receiverId : String
deriving DecidableEq, Repr

namespace ChatScreen

/-- The message that the text field and the user's profile make. -/
def textMessage (screen : ChatScreen) (firstName phone : Option String) (text : String) (now : Timestamp) :
    Message :=
  { senderName := firstName, senderPhone := phone, receiverId := some screen.receiverId, message := some text,
    senderId := some screen.currentUserId, timestamp := some now }

/-- What is drawn for a message: on the right the user's own, an image by its address. -/
structure Bubble where
  right : Bool
  image : Bool
  content : Option String
deriving DecidableEq, Repr

def getMessage (m : Message) (right : Bool) : Bubble :=
  if m.type = some "Image" then { right, image := true, content := m.photoUrl }
  else { right, image := false, content := m.message }

def chatMessageItem (screen : ChatScreen) (data : Document) : Except DartError Bubble := do
  let m ← Message.fromMap data
  return getMessage m (m.senderId = some screen.currentUserId)

/-- The documents of the stream, the newest first. -/
def messagesStream (screen : ChatScreen) (store : DocumentStore) : List Document :=
  store.orderBy (ChatServices.conversation screen.currentUserId screen.receiverId) TIMESTAMP_FIELD true

/-- The list that is drawn, from below. -/
def buildMessagesStream (screen : ChatScreen) (store : DocumentStore) : List (Except DartError Bubble) :=
  (screen.messagesStream store).map screen.chatMessageItem

end ChatScreen

/-! ## Any number of devices -/

structure ChatState where
  store : DocumentStore := []
  writes : Interleaving DocumentWrite := {}
  /-- images on their way to the storage, by the screen they were picked on -/
  uploads : List ChatScreen := []
  /-- every message that was handed to the services, for the record -/
  sent : List Message := []

inductive ChatEvent
  /-- the button beside the text field -/
  | sendMessage (screen : ChatScreen) (firstName phone : Option String) (text : String) (now : Timestamp)
  | pickImage (screen : ChatScreen)
  /-- an upload ends, without an address if it failed -/
  | uploaded (number : Nat) (url : Option String) (now : Timestamp)
  /-- the device is closed during the upload -/
  | abandoned (number : Nat)
  /-- the next write of a message is carried out -/
  | written (number : Nat) (fresh : String)
  /-- the next write of a message fails, or the device is closed before it -/
  | failed (number : Nat)
deriving DecidableEq, Repr

namespace ChatState

def addText (s : ChatState) (m : Message) : ChatState :=
  { s with writes := s.writes.start (ChatServices.addMessageToDB m), sent := s.sent ++ [m] }

def addImage (s : ChatState) (m : Message) : ChatState :=
  { s with writes := (ChatServices.addImageToDB m).foldl .start s.writes, sent := s.sent ++ [m] }

def dropUpload (s : ChatState) (number : Nat) : ChatState :=
  { s with uploads := s.uploads.eraseIdx number }

def step (s : ChatState) : ChatEvent → Option ChatState
  | .sendMessage screen firstName phone text now =>
    some (s.addText (screen.textMessage firstName phone text now))
  | .pickImage screen => some { s with uploads := s.uploads ++ [screen] }
  | .uploaded number url now => do
    let screen ← s.uploads[number]?
    let m := ChatServices.setImageMsg url screen.receiverId screen.currentUserId now
    return (s.dropUpload number).addImage m
  | .abandoned number => if number < s.uploads.length then some (s.dropUpload number) else none
  | .written number fresh => do
    let (write, writes) ← s.writes.advance number
    let store ← s.store.write fresh write
    return { s with store, writes }
  | .failed number => do
    let writes ← s.writes.stop number
    return { s with writes }

end ChatState

def chat : Machine ChatState ChatEvent where
  step := ChatState.step

end Nourgomla
