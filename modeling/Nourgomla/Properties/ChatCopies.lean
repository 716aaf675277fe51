import Mathlib.Data.List.Count
import Nourgomla.Services.ChatServices

set_option autoImplicit false

/-! # The two copies of a conversation

A message is in neither copy, in one or in both, and writes of several messages interleave at will. What holds of the
copies comes from the scripts of the messages: a text is in its sender's copy before it is in the
other, nothing is shown that was not sent, and once every write has been carried out the copies agree. -/

namespace Nourgomla

/-! ## What a message writes -/

namespace Message

def IsImage (m : Message) : Prop := m.type = some "Image"

instance (m : Message) : Decidable m.IsImage := inferInstanceAs (Decidable (_ = _))

/-- What the message is stored as. -/
def document (m : Message) : Document := if m.IsImage then m.toImageMap else m.toMap

/-- The scripts that the message starts. -/
def scripts (m : Message) : List (List DocumentWrite) :=
  if m.IsImage then ChatServices.addImageToDB m else [ChatServices.addMessageToDB m]

/-- A message as a screen makes it, from `a` to `b`. -/
structure Sendable (m : Message) (a b : String) : Prop where
  sender : m.senderId = some a
  receiver : m.receiverId = some b
  dated : m.timestamp.isSome
  text : ¬m.IsImage → m.type = none ∧ m.photoUrl = none

theorem sendable_textMessage (screen : ChatScreen) (firstName phone : Option String) (text : String)
    (now : Timestamp) :
    (screen.textMessage firstName phone text now).Sendable screen.currentUserId screen.receiverId :=
  ⟨rfl, rfl, rfl, fun _ => ⟨rfl, rfl⟩⟩

theorem sendable_setImageMsg (url : Option String) (a b : String) (now : Timestamp) :
    (ChatServices.setImageMsg url b a now).Sendable a b :=
  ⟨rfl, rfl, rfl, fun himage => absurd rfl himage⟩

namespace Sendable

variable {m : Message} {a b : String}

theorem scripts_image (h : m.Sendable a b) (himage : m.IsImage) :
    m.scripts = [[.add (ChatServices.conversation a b) m.document],
      [.add (ChatServices.conversation b a) m.document]] := by
  simp [scripts, himage, ChatServices.addImageToDB, h.sender, h.receiver, document]

theorem scripts_text (h : m.Sendable a b) (htext : ¬m.IsImage) :
    m.scripts = [[.add (ChatServices.conversation a b) m.document,
      .set ChatServices.contacts a (ChatServices.contactMap m),
      .add (ChatServices.conversation b a) m.document]] := by
  simp [scripts, htext, ChatServices.addMessageToDB, h.sender, h.receiver, document]

/-- What is read back is what was sent, but for the name and the phone. -/
theorem fromMap_document (h : m.Sendable a b) : fromMap m.document = .ok m.kept := by
  by_cases himage : m.IsImage
  · rw [document, if_pos himage, fromMap_toImageMap]
  · have hphoto : { m.kept with photoUrl := none } = m.kept := by
      rw [kept, (h.text himage).2]
    rw [document, if_neg himage, fromMap_toMap, hphoto]

theorem has_timestamp (m : Message) : m.document.has TIMESTAMP_FIELD = true := by
  unfold document
  split <;> rfl

theorem get_timestamp (m : Message) : m.document.get TIMESTAMP_FIELD = ofTimestamp m.timestamp := by
  unfold document
  split <;> rfl

end Sendable
end Message

/-! ## The invariant -/

/-- The store is what the writes have made of it, and the writes are those of the messages sent. -/
structure ChatState.Sound (s : ChatState) : Prop where
  reflects : s.store.Reflects s.writes.log
  scripts : s.writes.scripts = s.sent.flatMap Message.scripts
  sendable : ∀ m ∈ s.sent, ∃ a b, m.Sendable a b

namespace ChatState.Sound

variable {s s' : ChatState}

theorem start : ({} : ChatState).Sound where
  reflects := .empty
  scripts := rfl
  sendable := by simp

theorem sendable_append {sent : List Message} {m : Message} {a b : String}
    (hsent : ∀ m ∈ sent, ∃ a b, m.Sendable a b) (hm : m.Sendable a b) :
    ∀ m' ∈ sent ++ [m], ∃ a b, m'.Sendable a b := by
  intro m' hm'
  obtain hm' | rfl := by simpa using hm'
  · exact hsent m' hm'
  · exact ⟨a, b, hm⟩

theorem addText (h : s.Sound) {m : Message} {a b : String} (hm : m.Sendable a b) (htext : ¬m.IsImage) :
    (s.addText m).Sound where
  reflects := h.reflects
  scripts := by
    simp [ChatState.addText, h.scripts, Message.scripts, htext]
  sendable := sendable_append h.sendable hm

theorem addImage (h : s.Sound) {m : Message} {a b : String} (hm : m.Sendable a b) (himage : m.IsImage) :
    (s.addImage m).Sound where
  reflects := by
    simpa [ChatState.addImage, ChatServices.addImageToDB, hm.sender, hm.receiver] using h.reflects
  scripts := by
    simp [ChatState.addImage, ChatServices.addImageToDB, hm.sender, hm.receiver, h.scripts, Message.scripts,
      himage]
  sendable := sendable_append h.sendable hm

theorem dropUpload (h : s.Sound) (number : Nat) : (s.dropUpload number).Sound :=
  ⟨h.reflects, h.scripts, h.sendable⟩

theorem step {e : ChatEvent} (h : s.Sound) (hstep : chat.step s e = some s') : s'.Sound := by
  cases e with
  | sendMessage screen firstName phone text now =>
      obtain rfl : _ = s' := Option.some.inj hstep
      exact h.addText (Message.sendable_textMessage screen firstName phone text now) (by simp [Message.IsImage,
        ChatScreen.textMessage])
  | pickImage screen =>
      obtain rfl : _ = s' := Option.some.inj hstep
      exact ⟨h.reflects, h.scripts, h.sendable⟩
  | uploaded number url now =>
      obtain ⟨screen, -, hstep⟩ := Option.bind_eq_some_iff.1 hstep
      obtain rfl : _ = s' := Option.some.inj hstep
      exact (h.dropUpload number).addImage (Message.sendable_setImageMsg url _ _ now) rfl
  | abandoned number =>
      obtain ⟨-, hstep⟩ := Option.ite_none_right_eq_some.1 hstep
      obtain rfl : _ = s' := Option.some.inj hstep
      exact h.dropUpload number
  | written number fresh =>
      obtain ⟨⟨write, writes⟩, hadvance, hstep⟩ := Option.bind_eq_some_iff.1 hstep
      obtain ⟨store, hwrite, hstep⟩ := Option.bind_eq_some_iff.1 hstep
      obtain rfl : _ = s' := Option.some.inj hstep
      obtain ⟨hlog, hscripts⟩ := Interleaving.advance_eq_some hadvance
      refine ⟨?_, hscripts.trans h.scripts, h.sendable⟩
      show store.Reflects writes.log
      rw [hlog]
      exact h.reflects.write hwrite
  | failed number =>
      obtain ⟨writes, hstop, hstep⟩ := Option.bind_eq_some_iff.1 hstep
      obtain rfl : _ = s' := Option.some.inj hstep
      obtain ⟨hlog, hscripts⟩ := Interleaving.stop_eq_some hstop
      refine ⟨?_, hscripts.trans h.scripts, h.sendable⟩
      show s.store.Reflects writes.log
      rw [hlog]
      exact h.reflects

theorem run {es : List ChatEvent} (hrun : chat.run {} es = some s) : s.Sound :=
  have hpreserved : ∀ t i t', ChatState.Sound t → True → chat.step t i = some t' → ChatState.Sound t' :=
    fun _ _ _ h _ hstep => h.step hstep
  Machine.inv_of_meets hpreserved start (Machine.meets_true es) hrun

/-- A write is one of the two copies of a message that was sent, or makes the sender of a text a contact. -/
theorem of_mem_log (h : s.Sound) {w : DocumentWrite} (hw : w ∈ s.writes.log) :
    ∃ m ∈ s.sent, ∃ a b, m.Sendable a b ∧
      (w = .add (ChatServices.conversation a b) m.document ∨
        w = .add (ChatServices.conversation b a) m.document ∨
        ¬m.IsImage ∧ w = .set ChatServices.contacts a (ChatServices.contactMap m)) := by
  obtain ⟨script, hscript, hin⟩ := Interleaving.mem_script_of_mem_log hw
  rw [h.scripts] at hscript
  obtain ⟨m, hm, hscript⟩ := List.mem_flatMap.1 hscript
  obtain ⟨a, b, hsendable⟩ := h.sendable m hm
  refine ⟨m, hm, a, b, hsendable, ?_⟩
  by_cases himage : m.IsImage
  · rw [hsendable.scripts_image himage] at hscript
    obtain rfl | rfl : script = _ ∨ script = _ := by simpa using hscript
    · exact .inl (by simpa using hin)
    · exact .inr (.inl (by simpa using hin))
  · rw [hsendable.scripts_text himage] at hscript
    obtain rfl : script = _ := by simpa using hscript
    obtain rfl | rfl | rfl : w = _ ∨ w = _ ∨ w = _ := by simpa using hin
    · exact .inl rfl
    · exact .inr (.inr ⟨himage, rfl⟩)
    · exact .inr (.inl rfl)

theorem contacts_ne_conversation (a b : String) : ChatServices.contacts ≠ ChatServices.conversation a b := by
  simp [ChatServices.contacts, ChatServices.conversation]

theorem onlyAdds (h : s.Sound) (a b : String) :
    ∀ w ∈ s.writes.log, w.OnlyAdds (ChatServices.conversation a b) := by
  intro w hw
  obtain ⟨m, -, c, d, -, rfl | rfl | ⟨-, rfl⟩⟩ := h.of_mem_log hw
  · trivial
  · trivial
  · exact contacts_ne_conversation a b

theorem onlySets (h : s.Sound) : ∀ w ∈ s.writes.log, w.OnlySets ChatServices.contacts := by
  intro w hw
  obtain ⟨m, -, c, d, -, rfl | rfl | ⟨-, rfl⟩⟩ := h.of_mem_log hw
  · exact (contacts_ne_conversation c d).symm
  · exact (contacts_ne_conversation d c).symm
  · trivial

end ChatState.Sound

/-! ## What a screen shows -/

namespace ChatScreen

def conversation (screen : ChatScreen) : List String :=
  ChatServices.conversation screen.currentUserId screen.receiverId

/-- The messages of the stream, the newest first. -/
def messages (screen : ChatScreen) (store : DocumentStore) : List (Except DartError Message) :=
  (screen.messagesStream store).map Message.fromMap

/-- The screen of the other. -/
def swap (screen : ChatScreen) : ChatScreen := ⟨screen.receiverId, screen.currentUserId⟩

/-- The message goes from one of the two to the other. -/
def Between (screen : ChatScreen) (m : Message) : Prop :=
  m.senderId = some screen.currentUserId ∧ m.receiverId = some screen.receiverId ∨
    m.senderId = some screen.receiverId ∧ m.receiverId = some screen.currentUserId

instance (screen : ChatScreen) (m : Message) : Decidable (screen.Between m) :=
  inferInstanceAs (Decidable (_ ∨ _))

/-- The messages sent between the two, as the store keeps them. -/
def sentBetween (screen : ChatScreen) (sent : List Message) : List Message :=
  (sent.filter (screen.Between ·)).map Message.kept

/-- The write brings `m` to the screen. -/
def shows (screen : ChatScreen) (m : Message) (w : DocumentWrite) : Bool :=
  (w.addedTo screen.conversation).any fun data => Message.fromMap data = .ok m

theorem between_swap (screen : ChatScreen) (m : Message) : screen.swap.Between m ↔ screen.Between m :=
  or_comm

theorem sentBetween_swap (screen : ChatScreen) (sent : List Message) :
    screen.swap.sentBetween sent = screen.sentBetween sent := by
  simp only [sentBetween, between_swap]

theorem conversation_eq_iff {screen : ChatScreen} {a b : String} :
    ChatServices.conversation a b = screen.conversation ↔
      a = screen.currentUserId ∧ b = screen.receiverId := by
  simp [conversation, ChatServices.conversation]

theorem shows_add {screen : ChatScreen} {m m' : Message} {a b c d : String} (h : m'.Sendable a b) :
    screen.shows m (.add (ChatServices.conversation c d) m'.document) = true ↔
      c = screen.currentUserId ∧ d = screen.receiverId ∧ m'.kept = m := by
  by_cases hcd : ChatServices.conversation c d = screen.conversation
  · have hcd' := conversation_eq_iff.1 hcd
    simp only [shows, DocumentWrite.addedTo, if_pos hcd, Option.any_some, h.fromMap_document, Except.ok.injEq,
      decide_eq_true_eq]
    exact ⟨fun hm => ⟨hcd'.1, hcd'.2, hm⟩, fun hm => hm.2.2⟩
  · have hcd' := fun hc => hcd (conversation_eq_iff.2 hc)
    simp only [shows, DocumentWrite.addedTo, if_neg hcd, Option.any_none, Bool.false_eq_true, false_iff]
    exact fun hc => hcd' ⟨hc.1, hc.2.1⟩

theorem shows_set (screen : ChatScreen) (m : Message) (path : List String) (id : String) (data : Document) :
    screen.shows m (.set path id data) = false := rfl

end ChatScreen

namespace ChatState.Sound

variable {s : ChatState} {screen : ChatScreen}

theorem of_addedTo (h : s.Sound) {data : Document}
    (hdata : data ∈ s.writes.log.filterMap (DocumentWrite.addedTo screen.conversation)) :
    ∃ m ∈ s.sent, (∃ a b, m.Sendable a b) ∧ screen.Between m ∧ data = m.document := by
  obtain ⟨w, hw, hadded⟩ := List.mem_filterMap.1 hdata
  obtain ⟨m, hm, a, b, hsendable, rfl | rfl | ⟨-, rfl⟩⟩ := h.of_mem_log hw
  · obtain ⟨hpath, hdoc⟩ := Option.ite_none_right_eq_some.1 hadded
    obtain ⟨rfl, rfl⟩ := ChatScreen.conversation_eq_iff.1 hpath
    exact ⟨m, hm, ⟨_, _, hsendable⟩, .inl ⟨hsendable.sender, hsendable.receiver⟩,
      (Option.some.inj hdoc).symm⟩
  · obtain ⟨hpath, hdoc⟩ := Option.ite_none_right_eq_some.1 hadded
    obtain ⟨rfl, rfl⟩ := ChatScreen.conversation_eq_iff.1 hpath
    exact ⟨m, hm, ⟨_, _, hsendable⟩, .inr ⟨hsendable.sender, hsendable.receiver⟩,
      (Option.some.inj hdoc).symm⟩
  · cases hadded

theorem messagesStream_perm (h : s.Sound) (screen : ChatScreen) :
    (screen.messagesStream s.store).Perm
      (s.writes.log.filterMap (DocumentWrite.addedTo screen.conversation)) := by
  have hadded := h.reflects.added screen.conversation (h.onlyAdds _ _)
  rw [← hadded]
  refine DocumentStore.perm_orderBy fun d hd => ?_
  have hdata : d.data ∈ (s.store.collection screen.conversation).map (·.data) := List.mem_map_of_mem hd
  rw [hadded] at hdata
  obtain ⟨m, -, -, -, hdoc⟩ := h.of_addedTo hdata
  rw [hdoc]
  exact Message.Sendable.has_timestamp m

/-- Every message of the stream was sent, and can be read. -/
theorem of_mem_stream (h : s.Sound) {data : Document} (hdata : data ∈ screen.messagesStream s.store) :
    ∃ m ∈ s.sent, (∃ a b, m.Sendable a b) ∧ screen.Between m ∧ data = m.document :=
  h.of_addedTo ((h.messagesStream_perm screen).mem_iff.1 hdata)

theorem count_messages (h : s.Sound) (screen : ChatScreen) (m : Message) :
    (screen.messages s.store).count (.ok m) = s.writes.log.countP (screen.shows m) := by
  rw [ChatScreen.messages, ((h.messagesStream_perm screen).map Message.fromMap).count_eq, List.count,
    List.countP_map, List.countP_filterMap]
  refine List.countP_congr fun w _ => ?_
  cases hw : w.addedTo screen.conversation with
  | none => simp [ChatScreen.shows, hw]
  | some data => simp [ChatScreen.shows, hw]

theorem between_iff {m : Message} {a b : String} (hm : m.Sendable a b) :
    screen.Between m ↔ (a = screen.currentUserId ∧ b = screen.receiverId) ∨
      (b = screen.currentUserId ∧ a = screen.receiverId) := by
  simp only [ChatScreen.Between, hm.sender, hm.receiver, Option.some.injEq]
  rw [and_comm (a := a = screen.receiverId)]

theorem countP_scripts_flatten {m' : Message} {a b : String} (hm' : m'.Sendable a b) (m : Message) :
    m'.scripts.flatten.countP (screen.shows m) =
      (if screen.shows m (.add (ChatServices.conversation a b) m'.document) then 1 else 0) +
        (if screen.shows m (.add (ChatServices.conversation b a) m'.document) then 1 else 0) := by
  by_cases himage : m'.IsImage
  · rw [hm'.scripts_image himage]
    simp [List.countP_cons, Nat.add_comm]
  · rw [hm'.scripts_text himage]
    simp [List.countP_cons, ChatScreen.shows_set, Nat.add_comm]

/-- Of a message between two people, each of the screens gets one copy. -/
theorem countP_scripts_one (hscreen : screen.currentUserId ≠ screen.receiverId) {m' : Message} {a b : String}
    (hm' : m'.Sendable a b) (m : Message) :
    m'.scripts.flatten.countP (screen.shows m) = (screen.sentBetween [m']).count m := by
  rw [countP_scripts_flatten hm']
  by_cases hbetween : screen.Between m'
  · have hsent : screen.sentBetween [m'] = [m'.kept] := by simp [ChatScreen.sentBetween, hbetween]
    rw [hsent, List.count_singleton]
    obtain ⟨rfl, rfl⟩ | ⟨rfl, rfl⟩ := (between_iff hm').1 hbetween
    · simp [ChatScreen.shows_add hm', hscreen.symm]
    · simp [ChatScreen.shows_add hm', hscreen.symm]
  · have hsent : screen.sentBetween [m'] = [] := by simp [ChatScreen.sentBetween, hbetween]
    rw [between_iff hm', not_or] at hbetween
    rw [hsent, List.count_nil, if_neg, if_neg]
    · intro hshows
      obtain ⟨hb, ha, -⟩ := (ChatScreen.shows_add hm').1 hshows
      exact hbetween.2 ⟨hb, ha⟩
    · intro hshows
      obtain ⟨ha, hb, -⟩ := (ChatScreen.shows_add hm').1 hshows
      exact hbetween.1 ⟨ha, hb⟩

/-- What two people have sent each other is what their writes bring to one of their screens. -/
theorem countP_scripts (hscreen : screen.currentUserId ≠ screen.receiverId) (m : Message) (sent : List Message)
    (hsent : ∀ m ∈ sent, ∃ a b, m.Sendable a b) :
    (sent.flatMap Message.scripts).flatten.countP (screen.shows m) = (screen.sentBetween sent).count m := by
  induction sent with
  | nil => rfl
  | cons m' sent ih =>
      obtain ⟨a, b, hm'⟩ := hsent m' (by simp)
      have hrest := ih fun m hm => hsent m (List.mem_cons_of_mem _ hm)
      have hcons : screen.sentBetween (m' :: sent) = screen.sentBetween [m'] ++ screen.sentBetween sent := by
        rw [ChatScreen.sentBetween, ← List.singleton_append, List.filter_append, List.map_append]
        rfl
      rw [List.flatMap_cons, List.flatten_append, List.countP_append, countP_scripts_one hscreen hm', hrest,
        hcons, List.count_append]

end ChatState.Sound

/-! ## The copies of a text -/

theorem countP_take_le_of_last {α : Type} {p q : α → Bool} {x y z : α} (hx : q x = false) (hy : q y = false)
    (hz : q z = true → p x = true ∨ p y = true) (k : ℕ) :
    ([x, y, z].take k).countP q ≤ ([x, y, z].take k).countP p := by
  match k with
  | 0 => simp
  | 1 => simp [List.countP_cons, hx]
  | 2 => simp [List.countP_cons, hx, hy]
  | k + 3 =>
      cases hq : q z with
      | false => simp [List.countP_cons, hx, hy, hq]
      | true =>
          have hone : 1 ≤ (if p x then 1 else 0) + (if p y then 1 else 0) := by
            obtain hp | hp := hz hq <;> simp [hp]
          simp only [List.take_succ_cons, List.take_nil, List.countP_cons, List.countP_nil, hx, hy, hq,
            Bool.false_eq_true, if_true, if_false]
          omega

namespace ChatState.Sound

variable {s : ChatState} {screen : ChatScreen} {m : Message}

/-- A text reaches the screen of another by the last write of its script, and what `p` counts comes before. -/
theorem countP_shows_le (h : s.Sound) (hother : screen.currentUserId ≠ screen.receiverId) (htext : m.type = none)
    (hfrom : m.senderId = some screen.receiverId) {p : DocumentWrite → Bool}
    (hp : ∀ m' : Message, m'.Sendable screen.receiverId screen.currentUserId → m'.kept = m →
      p (.add (ChatServices.conversation screen.receiverId screen.currentUserId) m'.document) = true ∨
        p (.set ChatServices.contacts screen.receiverId (ChatServices.contactMap m')) = true) :
    s.writes.log.countP (screen.shows m) ≤ s.writes.log.countP p := by
  refine Interleaving.countP_log_le fun script hscript k => ?_
  rw [h.scripts] at hscript
  obtain ⟨m', hm', hscript⟩ := List.mem_flatMap.1 hscript
  obtain ⟨a, b, hsendable⟩ := h.sendable m' hm'
  have hread {c d : String} (hshows : screen.shows m (.add (ChatServices.conversation c d) m'.document) = true) :
      c = screen.currentUserId ∧ d = screen.receiverId ∧ a = screen.receiverId ∧ m'.kept = m := by
    obtain ⟨hc, hd, hkept⟩ := (ChatScreen.shows_add hsendable).1 hshows
    refine ⟨hc, hd, ?_, hkept⟩
    rw [← hkept] at hfrom
    exact Option.some.inj (hsendable.sender.symm.trans hfrom)
  have hfirst : screen.shows m (.add (ChatServices.conversation a b) m'.document) = false := by
    by_contra hshows
    obtain ⟨ha, -, ha', -⟩ := hread (by simpa using hshows)
    exact hother (ha.symm.trans ha')
  by_cases himage : m'.IsImage
  · have hnone : (script.take k).countP (screen.shows m) = 0 := by
      refine List.countP_eq_zero.2 fun w hw hshows => ?_
      have hin := List.mem_of_mem_take hw
      have hkept : m'.kept ≠ m := by
        rintro rfl
        cases himage.symm.trans htext
      rw [hsendable.scripts_image himage] at hscript
      obtain rfl | rfl : script = _ ∨ script = _ := by simpa using hscript
      · obtain rfl : w = _ := by simpa using hin
        exact hkept (hread hshows).2.2.2
      · obtain rfl : w = _ := by simpa using hin
        exact hkept (hread hshows).2.2.2
    omega
  · rw [hsendable.scripts_text himage] at hscript
    obtain rfl : script = _ := by simpa using hscript
    refine countP_take_le_of_last hfirst rfl (fun hshows => ?_) k
    obtain ⟨rfl, rfl, -, hkept⟩ := hread hshows
    exact hp m' hsendable hkept

end ChatState.Sound

/-- **A text is never ahead of its sender.** Whatever writes have been carried out, lost or begun, the receiver sees a
    text no more often than its sender does. -/
theorem text_in_sender_copy {es : List ChatEvent} {s : ChatState} (hrun : chat.run {} es = some s)
    (screen : ChatScreen) {m : Message} (htext : m.type = none)
    (hfrom : m.senderId = some screen.currentUserId) :
    (screen.swap.messages s.store).count (.ok m) ≤ (screen.messages s.store).count (.ok m) := by
  have h := ChatState.Sound.run hrun
  obtain ⟨me, other⟩ := screen
  by_cases hself : me = other
  · rw [hself, ChatScreen.swap]
  · rw [h.count_messages, h.count_messages]
    refine h.countP_shows_le (Ne.symm hself) htext hfrom fun m' hsendable hkept => .inl ?_
    exact (ChatScreen.shows_add hsendable).2 ⟨rfl, rfl, hkept⟩

/-- Two users write to each other, and their writes interleave. -/
def chatSample : List ChatEvent :=
  [.sendMessage ⟨"7", "9"⟩ (some "Aya") (some "0100") "hello" ⟨1, 0⟩, .written 0 "k0",
    .sendMessage ⟨"9", "7"⟩ (some "Omar") none "hi" ⟨2, 0⟩, .written 1 "k1", .written 0 "", .written 1 "",
    .pickImage ⟨"7", "9"⟩, .uploaded 0 (some "url") ⟨3, 0⟩, .written 3 "k2", .written 0 "k3", .written 1 "k4",
    .written 2 "k5"]

def chatSampleText : Message :=
  { receiverId := some "9", message := some "hello", senderId := some "7", timestamp := some ⟨1, 0⟩ }

theorem text_in_sender_copy_sample :
    ∃ s, chat.run {} chatSample = some s ∧
      1 ≤ (ChatScreen.messages ⟨"9", "7"⟩ s.store).count (.ok chatSampleText) ∧
      (ChatScreen.messages ⟨"9", "7"⟩ s.store).count (.ok chatSampleText) ≤
        (ChatScreen.messages ⟨"7", "9"⟩ s.store).count (.ok chatSampleText) := by
  obtain ⟨s, hrun, hread⟩ : ∃ s, chat.run {} chatSample = some s ∧
      1 ≤ (ChatScreen.messages ⟨"9", "7"⟩ s.store).count (.ok chatSampleText) :=
    Machine.reaches (by decide +kernel)
  exact ⟨s, hrun, hread, text_in_sender_copy hrun ⟨"7", "9"⟩ rfl rfl⟩

/-! ## Nothing but what was sent -/

theorem exists_eq_map {α β : Type} {f : α → β} {P : α → Prop} {l : List β} (h : ∀ y ∈ l, ∃ x, P x ∧ y = f x) :
    ∃ l' : List α, l = l'.map f ∧ ∀ x ∈ l', P x := by
  induction l with
  | nil => exact ⟨[], rfl, by simp⟩
  | cons y l ih =>
      obtain ⟨x, hx, rfl⟩ := h y (by simp)
      obtain ⟨l', rfl, hl'⟩ := ih fun z hz => h z (List.mem_cons_of_mem _ hz)
      exact ⟨x :: l', rfl, by simpa using ⟨hx, hl'⟩⟩

/-- No message is above one that is newer. -/
def NewestFirst (shown : List Message) : Prop :=
  shown.Pairwise fun m m' => ∀ t t', m.timestamp = some t → m'.timestamp = some t' → t' ≤ t

namespace ChatScreen

/-- The message as this screen draws it. -/
def bubble (screen : ChatScreen) (m : Message) : Bubble :=
  getMessage m (m.senderId = some screen.currentUserId)

def Bubble.mirrored (bubble : Bubble) : Bubble := { bubble with right := !bubble.right }

theorem chatMessageItem_document (screen : ChatScreen) {m : Message} {a b : String} (h : m.Sendable a b) :
    screen.chatMessageItem m.document = .ok (screen.bubble m.kept) := by
  simp only [chatMessageItem, h.fromMap_document, bind, Except.bind, pure, Except.pure, bubble]

/-- What is on the right here is on the left there. -/
theorem bubble_swap {screen : ChatScreen} (hother : screen.currentUserId ≠ screen.receiverId) {m : Message}
    (hm : screen.Between m) : screen.swap.bubble m = (screen.bubble m).mirrored := by
  simp only [bubble, swap, getMessage]
  obtain ⟨hsender, -⟩ | ⟨hsender, -⟩ := hm
  · by_cases himage : m.type = some "Image" <;> simp [hsender, hother, himage, Bubble.mirrored]
  · by_cases himage : m.type = some "Image" <;> simp [hsender, hother.symm, himage, Bubble.mirrored]

end ChatScreen

/-- What the screen shows: messages between the two, that can all be read, the newest first. -/
structure ShownOn (screen : ChatScreen) (store : DocumentStore) (shown : List Message) : Prop where
  messages : screen.messages store = shown.map .ok
  bubbles : screen.buildMessagesStream store = shown.map fun m => .ok (screen.bubble m)
  between : ∀ m ∈ shown, screen.Between m ∧ m.timestamp.isSome
  newestFirst : NewestFirst shown

theorem ChatState.Sound.exists_shown {s : ChatState} (h : s.Sound) (screen : ChatScreen) :
    ∃ shown, ShownOn screen s.store shown := by
  obtain ⟨sent, hstream, hsent⟩ := exists_eq_map fun data hdata => by
    obtain ⟨m, -, hsendable, hbetween, hdoc⟩ := ChatState.Sound.of_mem_stream h hdata
    exact ⟨m, And.intro hsendable hbetween, hdoc⟩
  refine ⟨sent.map Message.kept, ?_, ?_, ?_, ?_⟩
  · rw [ChatScreen.messages, hstream, List.map_map, List.map_map]
    refine List.map_congr_left fun m hm => ?_
    obtain ⟨⟨a, b, hsendable⟩, -⟩ := hsent m hm
    exact hsendable.fromMap_document
  · rw [ChatScreen.buildMessagesStream, hstream, List.map_map, List.map_map]
    refine List.map_congr_left fun m hm => ?_
    obtain ⟨⟨a, b, hsendable⟩, -⟩ := hsent m hm
    exact screen.chatMessageItem_document hsendable
  · intro m hm
    obtain ⟨m', hm', rfl⟩ := List.mem_map.1 hm
    obtain ⟨⟨a, b, hsendable⟩, hbetween⟩ := hsent m' hm'
    exact ⟨hbetween, hsendable.dated⟩
  · have hsorted := DocumentStore.pairwise_orderBy_descending s.store screen.conversation TIMESTAMP_FIELD
    have hstream' : s.store.orderBy screen.conversation TIMESTAMP_FIELD true = sent.map Message.document := hstream
    rw [hstream', List.pairwise_map] at hsorted
    rw [NewestFirst, List.pairwise_map]
    refine hsorted.imp fun {m m'} hle t t' ht ht' => ?_
    rw [Message.Sendable.get_timestamp, Message.Sendable.get_timestamp, show m.timestamp = some t from ht,
      show m'.timestamp = some t' from ht'] at hle
    exact key_ofTimestamp_le_iff.1 hle

theorem ShownOn.count_eq {screen : ChatScreen} {s : ChatState} {shown : List Message} (h : s.Sound)
    (hshown : ShownOn screen s.store shown) (m : Message) :
    shown.count m = s.writes.log.countP (screen.shows m) := by
  have hinj : Function.Injective (Except.ok : Message → Except DartError Message) := fun _ _ => Except.ok.inj
  rw [← h.count_messages, hshown.messages, List.count_map_of_injective _ _ hinj]

/-- **Nothing is made up.** Whatever writes have been carried out, lost or begun, a screen shows messages that the two
    people have sent each other, none more often than it was sent, the newest first. -/
theorem shown_was_sent {es : List ChatEvent} {s : ChatState} (hrun : chat.run {} es = some s)
    (screen : ChatScreen) (hother : screen.currentUserId ≠ screen.receiverId) :
    ∃ shown, ShownOn screen s.store shown ∧ shown.Subperm (screen.sentBetween s.sent) := by
  have h := ChatState.Sound.run hrun
  obtain ⟨shown, hshown⟩ := h.exists_shown screen
  refine ⟨shown, hshown, List.subperm_ext_iff.2 fun m _ => ?_⟩
  calc shown.count m
    _ = s.writes.log.countP (screen.shows m) := hshown.count_eq h m
    _ ≤ s.writes.scripts.flatten.countP (screen.shows m) := s.writes.countP_log_le_scripts _
    _ = (screen.sentBetween s.sent).count m := by
      rw [h.scripts, ChatState.Sound.countP_scripts hother m s.sent h.sendable]

theorem shown_was_sent_sample :
    ∃ s, chat.run {} chatSample = some s ∧ ∃ shown, ShownOn ⟨"9", "7"⟩ s.store shown ∧
      shown.Subperm (ChatScreen.sentBetween ⟨"9", "7"⟩ s.sent) := by
  obtain ⟨s, hrun, -⟩ : ∃ s, chat.run {} chatSample = some s ∧ True := Machine.reaches (by decide +kernel)
  exact ⟨s, hrun, shown_was_sent hrun ⟨"9", "7"⟩ (by decide)⟩

/-! ## Agreement -/

theorem shown_perm_of_complete {s : ChatState} (h : s.Sound) (hsettled : s.writes.Complete) {screen : ChatScreen}
    (hother : screen.currentUserId ≠ screen.receiverId) {shown : List Message}
    (hshown : ShownOn screen s.store shown) : shown.Perm (screen.sentBetween s.sent) := by
  refine List.perm_iff_count.2 fun m => ?_
  rw [hshown.count_eq h, (Interleaving.log_perm_of_complete hsettled).countP_eq, h.scripts,
    ChatState.Sound.countP_scripts hother m s.sent h.sendable]

/-- Where no two messages are of the same time, there is one way to put the newest first. -/
theorem NewestFirst.eq_of_perm {shown shown' : List Message} (h : NewestFirst shown) (h' : NewestFirst shown')
    (hdated : ∀ m ∈ shown, m.timestamp.isSome) (hdistinct : (shown.map (·.timestamp)).Nodup)
    (hperm : shown.Perm shown') : shown = shown' := by
  refine List.Perm.eq_of_pairwise (fun m m' hm hm' hle hle' => ?_) h h' hperm
  obtain ⟨t, ht⟩ := Option.isSome_iff_exists.1 (hdated m hm)
  obtain ⟨t', ht'⟩ := Option.isSome_iff_exists.1 (hdated m' (hperm.mem_iff.2 hm'))
  have hsame : t = t' := by
    have hlt := Timestamp.le_iff.1 (hle t t' ht ht')
    have hlt' := Timestamp.le_iff.1 (hle' t' t ht' ht)
    obtain ⟨seconds, nanoseconds⟩ := t
    obtain ⟨seconds', nanoseconds'⟩ := t'
    simp only at hlt hlt'
    obtain ⟨rfl, rfl⟩ : seconds = seconds' ∧ nanoseconds = nanoseconds' := by omega
    rfl
  exact List.inj_on_of_nodup_map hdistinct hm (hperm.mem_iff.2 hm') (by rw [ht, ht', hsame])

/-- **The copies agree.** Once every write has been carried out, both screens show what the two people have sent
    each other; where no two of the messages are of the same time, one screen is the mirror of the other. -/
theorem settled_screens_agree {es : List ChatEvent} {s : ChatState} (hrun : chat.run {} es = some s)
    (hsettled : s.writes.Complete) (screen : ChatScreen) (hother : screen.currentUserId ≠ screen.receiverId) :
    ∃ shown shown', ShownOn screen s.store shown ∧ ShownOn screen.swap s.store shown' ∧
      shown.Perm (screen.sentBetween s.sent) ∧ shown'.Perm (screen.sentBetween s.sent) ∧
      (((screen.sentBetween s.sent).map (·.timestamp)).Nodup →
        screen.swap.buildMessagesStream s.store =
          (screen.buildMessagesStream s.store).map (·.map ChatScreen.Bubble.mirrored)) := by
  have h := ChatState.Sound.run hrun
  obtain ⟨shown, hshown⟩ := h.exists_shown screen
  obtain ⟨shown', hshown'⟩ := h.exists_shown screen.swap
  have hperm := shown_perm_of_complete h hsettled hother hshown
  have hperm' := shown_perm_of_complete h hsettled hother.symm hshown'
  rw [ChatScreen.sentBetween_swap] at hperm'
  refine ⟨shown, shown', hshown, hshown', hperm, hperm', fun hdistinct => ?_⟩
  have hsame : shown = shown' :=
    hshown.newestFirst.eq_of_perm hshown'.newestFirst (fun m hm => (hshown.between m hm).2)
      ((hperm.map _).nodup_iff.2 hdistinct) (hperm.trans hperm'.symm)
  rw [hshown.bubbles, hshown'.bubbles, ← hsame, List.map_map]
  refine List.map_congr_left fun m hm => ?_
  exact congrArg Except.ok (ChatScreen.bubble_swap hother (hshown.between m hm).1)

theorem settled_screens_agree_sample :
    ∃ s, chat.run {} chatSample = some s ∧ (ChatScreen.buildMessagesStream ⟨"7", "9"⟩ s.store).length = 3 ∧
      ChatScreen.buildMessagesStream ⟨"9", "7"⟩ s.store =
        (ChatScreen.buildMessagesStream ⟨"7", "9"⟩ s.store).map (·.map ChatScreen.Bubble.mirrored) := by
  obtain ⟨s, hrun, hsettled, hlength, hdistinct⟩ : ∃ s, chat.run {} chatSample = some s ∧ s.writes.Complete ∧
      (ChatScreen.buildMessagesStream ⟨"7", "9"⟩ s.store).length = 3 ∧
      ((ChatScreen.sentBetween ⟨"7", "9"⟩ s.sent).map (·.timestamp)).Nodup :=
    Machine.reaches (by decide +kernel)
  obtain ⟨-, -, -, -, -, -, hmirror⟩ := settled_screens_agree hrun hsettled ⟨"7", "9"⟩ (by decide)
  exact ⟨s, hrun, hlength, hmirror hdistinct⟩

/-! ## Contacts -/

theorem mapM_map_ok {ε α β γ : Type} {f : β → Except ε γ} {g : α → β} {k : α → γ} (h : ∀ a, f (g a) = .ok (k a))
    (l : List α) : (l.map g).mapM f = .ok (l.map k) := by
  induction l with
  | nil => rfl
  | cons a l ih => simp [List.mapM_cons, h, ih, bind, Except.bind, pure, Except.pure]

/-- The sender of a text as a contact. -/
def Message.contact (m : Message) : Contact := ⟨m.senderId, m.senderName, m.senderPhone⟩

theorem fromJson_contactMap (m : Message) :
    Contact.fromJson (ChatServices.contactMap m) = .ok m.contact := by
  simp [Contact.fromJson, ChatServices.contactMap, TIMESTAMP_FIELD, Message.contact, Document.get, List.lookup_cons,
    bind, Except.bind, pure, Except.pure]

namespace ChatState.Sound

variable {s : ChatState}

/-- A contact is made by a text that was sent, under the id of its sender. -/
theorem of_mem_contacts (h : s.Sound) {d : StoredDocument}
    (hd : d ∈ s.store.collection ChatServices.contacts) :
    ∃ m ∈ s.sent, ¬m.IsImage ∧ m.timestamp.isSome ∧ m.senderId = some d.id ∧
      d.data = ChatServices.contactMap m := by
  obtain ⟨hstored, hpath⟩ : d ∈ s.store ∧ d.collection = ChatServices.contacts := by
    simpa [DocumentStore.collection] using hd
  obtain ⟨path, id, data⟩ := d
  obtain rfl : path = ChatServices.contacts := hpath
  have hlast := (h.reflects.last _ h.onlySets id data).1 hstored
  obtain ⟨w, hw, hset⟩ := List.mem_filterMap.1 (List.mem_of_getLast? hlast)
  obtain ⟨m, hm, a, b, hsendable, rfl | rfl | ⟨htext, rfl⟩⟩ := h.of_mem_log hw
  · cases hset
  · cases hset
  · obtain ⟨⟨-, rfl⟩, hdata⟩ := Option.ite_none_right_eq_some.1 hset
    exact ⟨m, hm, htext, hsendable.dated, hsendable.sender, (Option.some.inj hdata).symm⟩

/-- Whose text is in another's conversation is a contact. -/
theorem isContact_of_shows (h : s.Sound) {screen : ChatScreen} (hother : screen.currentUserId ≠ screen.receiverId)
    {m : Message} (htext : m.type = none) (hfrom : m.senderId = some screen.receiverId)
    (hshows : .ok m ∈ screen.messages s.store) :
    ∃ d ∈ s.store.collection ChatServices.contacts, d.id = screen.receiverId := by
  let isSet : DocumentWrite → Bool := fun w => (w.setIn ChatServices.contacts screen.receiverId).isSome
  have hle : s.writes.log.countP (screen.shows m) ≤ s.writes.log.countP isSet := by
    refine h.countP_shows_le hother htext hfrom fun m' _ _ => .inr ?_
    simp [isSet, DocumentWrite.setIn]
  have hpos : 0 < s.writes.log.countP (screen.shows m) := by
    rw [← h.count_messages]
    exact List.count_pos_iff.2 hshows
  obtain ⟨w, hw, hset⟩ := List.countP_pos_iff.1 (hpos.trans_le hle)
  obtain ⟨data, hdata⟩ := Option.isSome_iff_exists.1 hset
  have hne : s.writes.log.filterMap (DocumentWrite.setIn ChatServices.contacts screen.receiverId) ≠ [] :=
    List.ne_nil_of_mem (List.mem_filterMap.2 ⟨w, hw, hdata⟩)
  have hstored := (h.reflects.last _ h.onlySets _ _).2 (List.getLast?_eq_some_getLast hne)
  exact ⟨_, List.mem_filter.2 ⟨hstored, by simp⟩, rfl⟩

end ChatState.Sound

/-- **The contacts are those who wrote.** Whatever writes have been carried out, lost or begun, a contact is the sender of a
    text with the name and phone he had then, listed once and in the order of these texts; and whoever's text someone
    else can read is a contact. -/
theorem contacts_are_senders {es : List ChatEvent} {s : ChatState} (hrun : chat.run {} es = some s) :
    ∃ texts : List Message, ChatServices.getContacts s.store = .ok (texts.map Message.contact) ∧
      (∀ m ∈ texts, m ∈ s.sent ∧ ¬m.IsImage) ∧ (texts.map (·.senderId)).Nodup ∧
      (texts.Pairwise fun m m' => ∀ t t', m.timestamp = some t → m'.timestamp = some t' → t ≤ t') ∧
      ∀ screen : ChatScreen, screen.currentUserId ≠ screen.receiverId → ∀ m : Message, m.type = none →
        m.senderId = some screen.receiverId → .ok m ∈ screen.messages s.store →
          m.senderId ∈ texts.map (·.senderId) := by
  have h := ChatState.Sound.run hrun
  have hperm : (s.store.orderBy ChatServices.contacts TIMESTAMP_FIELD false).Perm
      ((s.store.collection ChatServices.contacts).map (·.data)) := by
    refine DocumentStore.perm_orderBy fun d hd => ?_
    obtain ⟨m, -, -, -, -, hdata⟩ := h.of_mem_contacts hd
    rw [hdata]
    rfl
  obtain ⟨texts, hdocs, htexts⟩ := exists_eq_map fun data hdata => by
    obtain ⟨d, hd, rfl⟩ := List.mem_map.1 (hperm.mem_iff.1 hdata)
    obtain ⟨m, hm, htext, -, -, hcontact⟩ := h.of_mem_contacts hd
    exact ⟨m, And.intro hm htext, hcontact⟩
  rw [hdocs] at hperm
  have hids : (texts.map fun m => ofString m.senderId).Perm
      ((s.store.collection ChatServices.contacts).map fun d => .string d.id) := by
    have hget := hperm.map (Document.get · "id")
    rw [List.map_map, List.map_map] at hget
    refine hget.trans (List.Perm.of_eq (List.map_congr_left fun d hd => ?_))
    obtain ⟨m, -, -, -, hsender, hdata⟩ := h.of_mem_contacts hd
    simp [hdata, ChatServices.contactMap, Document.get, hsender, ofString]
  refine ⟨texts, ?_, htexts, ?_, ?_, ?_⟩
  · rw [ChatServices.getContacts, hdocs]
    exact mapM_map_ok fromJson_contactMap texts
  · have hnodup := (hids.nodup_iff).2 ?_
    · rw [show (fun m : Message => ofString m.senderId) = ofString ∘ (·.senderId) from rfl, ← List.map_map] at hnodup
      exact hnodup.of_map
    · have hstored := h.reflects.nodup ChatServices.contacts
      rw [show (fun d : StoredDocument => FieldValue.string d.id) = FieldValue.string ∘ (·.id) from rfl,
        ← List.map_map]
      exact hstored.map fun _ _ => FieldValue.string.inj
  · have hsorted := DocumentStore.pairwise_orderBy_ascending s.store ChatServices.contacts TIMESTAMP_FIELD
    rw [hdocs, List.pairwise_map] at hsorted
    refine hsorted.imp fun {m m'} hle t t' ht ht' => ?_
    have hget (m : Message) : (ChatServices.contactMap m).get TIMESTAMP_FIELD = ofTimestamp m.timestamp := rfl
    rw [hget, hget, ht, ht'] at hle
    exact key_ofTimestamp_le_iff.1 hle
  · intro screen hother m htext hfrom hshows
    obtain ⟨d, hd, hid⟩ := h.isContact_of_shows hother htext hfrom hshows
    have hmem := hids.mem_iff.2 (List.mem_map_of_mem hd)
    obtain ⟨m', hm', hsender⟩ := List.mem_map.1 hmem
    refine List.mem_map.2 ⟨m', hm', ?_⟩
    rw [hfrom, ← hid]
    cases hs : m'.senderId with
    | none => simp [hs, ofString] at hsender
    | some id => simpa [hs, ofString] using hsender

theorem contacts_are_senders_sample :
    ∃ s, chat.run {} chatSample = some s ∧
      ∃ texts : List Message, ChatServices.getContacts s.store = .ok (texts.map Message.contact) ∧
        (texts.map (·.senderId)).Nodup := by
  obtain ⟨s, hrun, -⟩ : ∃ s, chat.run {} chatSample = some s ∧ True := Machine.reaches (by decide +kernel)
  obtain ⟨texts, hcontacts, -, hnodup, -⟩ := contacts_are_senders hrun
  exact ⟨s, hrun, texts, hcontacts, hnodup⟩

end Nourgomla
