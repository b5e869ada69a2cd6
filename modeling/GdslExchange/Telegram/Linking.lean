/-
This file models the linking of Telegram chats by codes and settles when it is exclusive and
bounded: when the transaction that links a chat finds its code unused, or used by that chat
alone, and fewer than three other chats of the user active.

The service looks for both, but before the transaction, and of a chat that was linked before
only for the first.
-/

import GdslExchange.Async.Delivery
import GdslExchange.Async.Program
import Mathlib.Data.List.Nodup

namespace GdslExchange.Telegram

open Async Async.Program

/-! ### Rows -/

def MAX_TELEGRAM_LINKS_PER_USER : ℕ := 3

structure LinkCode where
  code : String
  userId : String
  expiresAt : ℕ
  consumed : Bool

structure Link where
  userId : String
  chatId : String
  username : Option String
  firstName : Option String
  isActive : Bool

/-- What consumed a code: a newer code of its user, or the link of a chat. -/
inductive Use where
  | invalidated (code : String)
  | linked (code chatId : String)
deriving DecidableEq

def Use.code : Use → String
  | invalidated code => code
  | linked code _ => code

/-- An update of codes with `consumed: true`. -/
def consume (which : LinkCode → Prop) [DecidablePred which] (codes : List LinkCode) :
    List LinkCode :=
  codes.map fun row => if which row then { row with consumed := true } else row

/-- The rows, and what has consumed codes, in order. -/
structure Desk where
  codes : List LinkCode
  links : List Link
  uses : List Use

structure Chat where
  id : String
  username : Option String
  firstName : Option String

/-- Which links are disconnected: one of a user or all of them, or those of a chat. -/
inductive Disconnected where
  | link (linkId : ℕ) (userId : String)
  | user (userId : String)
  | chat (chatId : String)

def Disconnected.Covers (disconnected : Disconnected) (id : ℕ) (link : Link) : Prop :=
  match disconnected with
  | .link linkId userId => id = linkId ∧ link.userId = userId
  | .user userId => link.userId = userId
  | .chat chatId => link.chatId = chatId

instance (disconnected : Disconnected) (id : ℕ) (link : Link) :
    Decidable (disconnected.Covers id link) := by
  unfold Disconnected.Covers
  split <;> infer_instance

namespace Link

/-- A link counts against the limit of its user. -/
def ActiveOf (userId : String) (link : Link) : Prop := link.userId = userId ∧ link.isActive

instance (userId : String) : DecidablePred (ActiveOf userId) := fun _ =>
  inferInstanceAs (Decidable (_ ∧ _))

/-- The row of a chat that is linked for the first time. -/
def created (userId : String) (chat : Chat) : Link :=
  ⟨userId, chat.id, chat.username, chat.firstName, true⟩

def relinked (chat : Chat) (link : Link) : Link :=
  { link with
    chatId := chat.id, username := chat.username, firstName := chat.firstName, isActive := true }

end Link

namespace Desk

variable (desk : Desk)

def findCode (code : String) : Option LinkCode := desk.codes.find? fun row => row.code = code

def findLink (chatId : String) : Option (Stored Link) :=
  (desk.links.zipIdx.find? fun link => link.1.chatId = chatId).map fun link => ⟨link.2, link.1⟩

def countActive (userId : String) : ℕ := desk.links.countP (Link.ActiveOf userId)

/-- The codes of a user that nothing has consumed. -/
def unused (userId : String) : List LinkCode :=
  desk.codes.filter fun row => row.userId = userId ∧ row.consumed = false

def invalidateCodes (userId : String) : Desk :=
  { desk with
    codes := consume (fun row => row.userId = userId ∧ row.consumed = false) desk.codes
    uses := desk.uses ++ (desk.unused userId).map fun row => .invalidated row.code }

def createCode (code userId : String) (expiresAt : ℕ) : Desk :=
  { desk with codes := desk.codes ++ [⟨code, userId, expiresAt, false⟩] }

/-- The links after a chat is linked, by an update of its row or in a new one. -/
def linksWith (existing : Option ℕ) (userId : String) (chat : Chat) : List Link :=
  match existing with
  | none => desk.links ++ [.created userId chat]
  | some id => desk.links.modify id (.relinked chat)

/-- The two writes of the transaction. -/
def link (code : String) (existing : Option ℕ) (userId : String) (chat : Chat) : Desk where
  codes := consume (fun row => row.code = code) desk.codes
  links := desk.linksWith existing userId chat
  uses := desk.uses ++ [.linked code chat.id]

def disconnect (disconnected : Disconnected) : Desk :=
  { desk with
    links := desk.links.mapIdx fun id link =>
      if disconnected.Covers id link then { link with isActive := false } else link }

/-- The code and the row to update are there, and no other row has the chat. -/
def Accepts (code : String) (existing : Option ℕ) (chat : Chat) : Prop :=
  (∃ row ∈ desk.codes, row.code = code) ∧
    match existing with
    | none => ∀ link ∈ desk.links, link.chatId ≠ chat.id
    | some id => id < desk.links.length ∧
      ∀ link ∈ desk.links.zipIdx, link.1.chatId = chat.id → link.2 = id

instance (code : String) (existing : Option ℕ) (chat : Chat) :
    Decidable (desk.Accepts code existing chat) := by
  unfold Accepts
  cases existing <;> infer_instance

end Desk

/-! ### The service -/

inductive Op where
  | findCode (code : String)
  | findLink (chatId : String)
  | countActive (userId : String)
  | invalidateCodes (userId : String)
  | createCode (code userId : String) (expiresAt : ℕ)
  | link (code : String) (existing : Option ℕ) (userId : String) (chat : Chat)
  | disconnect (disconnected : Disconnected)

abbrev Result : Op → Type
  | .findCode _ => Option LinkCode
  | .findLink _ => Option (Stored Link)
  | .countActive _ => ℕ
  | _ => Unit

def perform : (op : Op) → Delivery → Desk → Desk × Except String (Result op)
  | .findCode code, delivery, desk => delivery.read desk (desk.findCode code)
  | .findLink chatId, delivery, desk => delivery.read desk (desk.findLink chatId)
  | .countActive userId, delivery, desk => delivery.read desk (desk.countActive userId)
  | .invalidateCodes userId, delivery, desk => delivery.write desk (desk.invalidateCodes userId) ()
  | .createCode code userId expiresAt, delivery, desk =>
    if ∃ row ∈ desk.codes, row.code = code then (desk, .error "Unique constraint failed")
    else delivery.write desk (desk.createCode code userId expiresAt) ()
  | .link code existing userId chat, delivery, desk =>
    if desk.Accepts code existing chat then
      delivery.write desk (desk.link code existing userId chat) ()
    else (desk, .error "Transaction failed")
  | .disconnect disconnected, delivery, desk =>
    delivery.write desk (desk.disconnect disconnected) ()

@[reducible] def tables : Service where
  State := Desk
  Op := Op
  Result := Result
  Failure := String
  Fate _ := Delivery
  perform := perform

abbrev Call (Value : Type) : Type := Program tables Value

def await (op : Op) : Call (Result op) := @Program.perform tables op

/-- The first of the codes drawn that is not taken, the last one not being looked up. -/
def untaken (generateCode : ℕ → String) : (attempts drawn : ℕ) → Call String
  | 0, drawn => return generateCode drawn
  | attempts + 1, drawn => do
    let taken ← await (.findCode (generateCode drawn))
    if taken.isNone then return generateCode drawn
    else untaken generateCode attempts (drawn + 1)

inductive Reason where
  | codeNotFound
  | codeAlreadyUsed
  | codeExpired
  | chatLinkedOtherAccount
  | maxLinksReached
deriving DecidableEq

inductive Response where
  | created (code : String) (expiresAt : ℕ)
  | linked (userId : String)
  | refused (reason : Reason)
  | disconnected

/-- `createLinkCode`, of the codes that will be drawn. -/
def createLinkCode (userId : String) (expiresAt : ℕ) (generateCode : ℕ → String) :
    Call Response := do
  await (.invalidateCodes userId)
  let code ← untaken generateCode 5 0
  await (.createCode code userId expiresAt)
  return .created code expiresAt

def consumeLinkCode (now : ℕ) (code : String) (chat : Chat) : Call Response := do
  match ← await (.findCode code) with
  | none => return .refused .codeNotFound
  | some row =>
    if row.consumed then return .refused .codeAlreadyUsed
    else if row.expiresAt < now then return .refused .codeExpired
    else
      let existingChat ← await (.findLink chat.id)
      if existingChat.any fun link => link.row.userId ≠ row.userId then
        return .refused .chatLinkedOtherAccount
      else
        let activeCount ← await (.countActive row.userId)
        if existingChat = none ∧ activeCount ≥ MAX_TELEGRAM_LINKS_PER_USER then
          return .refused .maxLinksReached
        else
          await (.link code (existingChat.map Stored.id) row.userId chat)
          return .linked row.userId

def disconnectUser (userId : String) (linkId : Option ℕ) : Call Response := do
  match linkId with
  | some linkId => await (.disconnect (.link linkId userId))
  | none => await (.disconnect (.user userId))
  return .disconnected

def disconnectChat (chatId : String) : Call Response := do
  await (.disconnect (.chat chatId))
  return .disconnected

inductive Request where
  | createLinkCode (userId : String) (expiresAt : ℕ) (generateCode : ℕ → String)
  | consumeLinkCode (now : ℕ) (code : String) (chat : Chat)
  | disconnectUser (userId : String) (linkId : Option ℕ)
  | disconnectChat (chatId : String)

def Request.call : Request → Call Response
  | .createLinkCode userId expiresAt generateCode =>
    Telegram.createLinkCode userId expiresAt generateCode
  | .consumeLinkCode now code chat => Telegram.consumeLinkCode now code chat
  | .disconnectUser userId linkId => Telegram.disconnectUser userId linkId
  | .disconnectChat chatId => Telegram.disconnectChat chatId

/-- Tables in which no code occurs twice and no user has more than three active links. -/
structure Start where
  codes : List LinkCode
  links : List Link
  distinct : (codes.map LinkCode.code).Nodup
  bounded : ∀ userId, links.countP (Link.ActiveOf userId) ≤ MAX_TELEGRAM_LINKS_PER_USER

def linkingSystem (start : Start) (requests : List Request) : System tables Response :=
  ⟨⟨⟨start.codes, start.links, []⟩, []⟩, requests.map Request.call⟩

/-! ### What a run should keep -/

/-- A code links one chat at most. -/
def Exclusive (uses : List Use) : Prop :=
  ∀ code first second, Use.linked code first ∈ uses → Use.linked code second ∈ uses →
    first = second

/-- No code links a chat after a newer one has invalidated it. -/
def Timely (uses : List Use) : Prop :=
  uses.Pairwise fun earlier later =>
    ∀ code chatId, earlier = .invalidated code → later ≠ .linked code chatId

structure Lawful (desk : Desk) : Prop where
  exclusive : Exclusive desk.uses
  timely : Timely desk.uses
  bounded : ∀ userId, desk.countActive userId ≤ MAX_TELEGRAM_LINKS_PER_USER

/-! ### When it does -/

/-- The links of others than the one that a transaction writes. -/
def Desk.others (desk : Desk) (existing : Option ℕ) : List Link :=
  match existing with
  | none => desk.links
  | some id => desk.links.eraseIdx id

/-- The user whose chat a transaction activates. -/
def Desk.gainer (desk : Desk) (existing : Option ℕ) (userId : String) : String :=
  match existing.bind (desk.links[·]?) with
  | none => userId
  | some link => link.userId

/-- The code is unused, or nothing but the chat has used it; and the user has fewer than three
other active links. -/
structure Free (desk : Desk) (code : String) (existing : Option ℕ) (userId chatId : String) :
    Prop where
  unused : (∃ row ∈ desk.codes, row.code = code ∧ row.consumed) →
    ∀ use ∈ desk.uses, use.code = code → use = .linked code chatId
  room : (desk.others existing).countP (Link.ActiveOf (desk.gainer existing userId)) <
    MAX_TELEGRAM_LINKS_PER_USER

instance (desk : Desk) (code : String) (existing : Option ℕ) (userId chatId : String) :
    Decidable (Free desk code existing userId chatId) :=
  decidable_of_iff (((∃ row ∈ desk.codes, row.code = code ∧ row.consumed) →
      ∀ use ∈ desk.uses, use.code = code → use = .linked code chatId) ∧
    (desk.others existing).countP (Link.ActiveOf (desk.gainer existing userId)) <
      MAX_TELEGRAM_LINKS_PER_USER)
    ⟨fun ⟨unused, room⟩ => ⟨unused, room⟩, fun free => ⟨free.unused, free.room⟩⟩

/-- A link that takes effect is free. -/
def Orderly (step : Step tables) : Prop :=
  match step.op with
  | .link code existing userId chat => Delivery.Applies step.fate →
    step.before.state.Accepts code existing chat →
      Free step.before.state code existing userId chat.id
  | _ => True

instance (step : Step tables) : Decidable (Orderly step) := by
  unfold Orderly
  split <;> infer_instance

/-! ### Uses of codes -/

section Uses

variable {uses : List Use} {code chatId : String}

theorem uses_linked (exclusive : Exclusive uses) (timely : Timely uses) :
    Exclusive (uses ++ [.linked code chatId]) ∧ Timely (uses ++ [.linked code chatId]) ↔
      ∀ use ∈ uses, use.code = code → use = .linked code chatId := by
  constructor
  · rintro ⟨exclusiveAfter, timelyAfter⟩ use member isCode
    cases use with
    | invalidated other =>
      obtain ⟨-, -, later⟩ := List.pairwise_append.mp timelyAfter
      exact absurd rfl (later _ member _ List.mem_cons_self code chatId (congrArg _ isCode))
    | linked other chat =>
      rw [← show other = code from isCode]
      refine congrArg _ (exclusiveAfter other chat chatId (List.mem_append_left _ member) ?_)
      rw [show other = code from isCode]
      exact List.mem_append_right _ List.mem_cons_self
  · intro same
    refine ⟨fun other first second isFirst isSecond => ?_, ?_⟩
    · have own (chat : String) (member : Use.linked other chat ∈ uses ++ [.linked code chatId]) :
          Use.linked other chat ∈ uses ∨ other = code ∧ chat = chatId := by
        rcases List.mem_append.mp member with earlier | isNew
        · exact .inl earlier
        · exact .inr (Use.linked.inj (List.mem_singleton.mp isNew))
      rcases own first isFirst with firstEarlier | ⟨rfl, rfl⟩
      · rcases own second isSecond with secondEarlier | ⟨rfl, rfl⟩
        · exact exclusive other first second firstEarlier secondEarlier
        · exact (Use.linked.inj (same _ firstEarlier rfl)).2
      · rcases own second isSecond with secondEarlier | ⟨-, rfl⟩
        · exact (Use.linked.inj (same _ secondEarlier rfl)).2.symm
        · rfl
    · refine List.pairwise_append.mpr ⟨timely, List.pairwise_singleton _ _, ?_⟩
      intro earlier member later isLater other chat isInvalidated isLinked
      rw [List.mem_singleton.mp isLater] at isLinked
      obtain ⟨rfl, rfl⟩ := Use.linked.inj isLinked
      have isLink := same earlier member (congrArg Use.code isInvalidated)
      exact absurd (isInvalidated.symm.trans isLink) (by simp)

/-- Invalidations keep them so. -/
theorem uses_invalidated (exclusive : Exclusive uses) (timely : Timely uses)
    (rows : List LinkCode) :
    Exclusive (uses ++ rows.map fun row => .invalidated row.code) ∧
      Timely (uses ++ rows.map fun row => .invalidated row.code) := by
  have earlier (other chat : String)
      (member : Use.linked other chat ∈ uses ++ rows.map fun row => .invalidated row.code) :
      Use.linked other chat ∈ uses := by
    rcases List.mem_append.mp member with isEarlier | isNew
    · exact isEarlier
    · obtain ⟨row, -, isUse⟩ := List.mem_map.mp isNew
      cases isUse
  refine ⟨fun other first second isFirst isSecond =>
    exclusive other first second (earlier _ _ isFirst) (earlier _ _ isSecond), ?_⟩
  have never (use : Use) (isNew : use ∈ rows.map fun row => Use.invalidated row.code)
      (other chat : String) : use ≠ .linked other chat := by
    obtain ⟨row, -, isUse⟩ := List.mem_map.mp isNew
    rw [← isUse]
    exact Use.noConfusion
  refine List.pairwise_append.mpr ⟨timely, ?_, ?_⟩
  · refine List.pairwise_map.mpr (List.pairwise_of_forall fun _ _ _ _ _ => Use.noConfusion)
  · exact fun _ _ later isLater other chat _ => never later isLater other chat

end Uses

/-! ### Active links -/

section Links

variable {desk : Desk}

theorem countP_linksWith {existing : Option ℕ} (found : ∀ id ∈ existing, id < desk.links.length)
    (userId other : String) (chat : Chat) :
    (desk.linksWith existing userId chat).countP (Link.ActiveOf other) =
      (desk.others existing).countP (Link.ActiveOf other) +
        if desk.gainer existing userId = other then 1 else 0 := by
  cases existing with
  | none =>
    show (desk.links ++ [_]).countP _ = desk.links.countP _ + if userId = other then 1 else 0
    rw [List.countP_append, List.countP_singleton]
    simp [Link.ActiveOf, Link.created]
  | some id =>
    have inside := found id rfl
    have isGainer : desk.gainer (some id) userId = (desk.links[id]).userId := by
      unfold Desk.gainer
      rw [Option.bind_some, List.getElem?_eq_getElem inside]
    show (desk.links.modify id _).countP _ = (desk.links.eraseIdx id).countP _ + _
    rw [isGainer, List.modify_eq_take_cons_drop inside, List.eraseIdx_eq_take_drop_succ,
      List.countP_append, List.countP_append, List.countP_cons]
    simp [Link.ActiveOf, Link.relinked, Nat.add_assoc]

theorem countP_others_le (existing : Option ℕ) (userId : String) :
    (desk.others existing).countP (Link.ActiveOf userId) ≤ desk.countActive userId := by
  cases existing with
  | none => exact Nat.le_refl _
  | some id => exact (List.eraseIdx_sublist desk.links id).countP_le

theorem countP_mapIdx_le {counted : Link → Bool} (links : List Link) {change : ℕ → Link → Link}
    (fewer : ∀ id link, counted (change id link) → counted link) :
    (links.mapIdx change).countP counted ≤ links.countP counted := by
  induction links generalizing change with
  | nil => exact Nat.le_refl _
  | cons link rest inductionHypothesis =>
    rw [List.mapIdx_cons, List.countP_cons, List.countP_cons]
    refine Nat.add_le_add (inductionHypothesis fun id => fewer (id + 1)) ?_
    split
    case isTrue counts => exact Nat.le_of_eq (if_pos (fewer 0 link counts)).symm
    case isFalse => exact Nat.zero_le _

theorem countActive_disconnect (disconnected : Disconnected) (userId : String) :
    (desk.disconnect disconnected).countActive userId ≤ desk.countActive userId := by
  refine countP_mapIdx_le desk.links fun id link counts => ?_
  split at counts
  · exact absurd (of_decide_eq_true counts).2 Bool.false_ne_true
  · exact counts

end Links

/-! ### Steps -/

/-- What an operation does if it takes effect. -/
def Op.effect : Op → Desk → Desk
  | .invalidateCodes userId, desk => desk.invalidateCodes userId
  | .createCode code userId expiresAt, desk =>
    if ∃ row ∈ desk.codes, row.code = code then desk else desk.createCode code userId expiresAt
  | .link code existing userId chat, desk =>
    if desk.Accepts code existing chat then desk.link code existing userId chat else desk
  | .disconnect disconnected, desk => desk.disconnect disconnected
  | _, desk => desk

theorem state_after (step : Step tables) : step.after.state =
    if Delivery.Applies step.fate then step.op.effect step.before.state
    else step.before.state := by
  obtain ⟨before, caller, op, fate⟩ := step
  cases op with
  | createCode code userId expiresAt =>
    show (if _ then _ else Delivery.write fate _ _ () : Desk × Except String Unit).1 =
      if _ then (if _ then _ else _) else _
    split
    · exact (ite_self _).symm
    · rfl
  | link code existing userId chat =>
    show (if _ then Delivery.write fate _ _ () else _ : Desk × Except String Unit).1 =
      if _ then (if _ then _ else _) else _
    split
    · rfl
    · exact (ite_self _).symm
  | findCode code => exact (ite_self _).symm
  | findLink chatId => exact (ite_self _).symm
  | countActive userId => exact (ite_self _).symm
  | _ => rfl

/-- No code occurs twice, whatever has used a code has consumed it, and what is used is a code. -/
structure Recorded (desk : Desk) : Prop where
  distinct : (desk.codes.map LinkCode.code).Nodup
  consumed : ∀ row ∈ desk.codes, ∀ use ∈ desk.uses, use.code = row.code → row.consumed
  known : ∀ use ∈ desk.uses, ∃ row ∈ desk.codes, row.code = use.code

theorem recorded_consume {desk after : Desk} (recorded : Recorded desk)
    {which : LinkCode → Prop} [DecidablePred which] {more : List Use}
    (isCodes : after.codes = consume which desk.codes) (isUses : after.uses = desk.uses ++ more)
    (each : ∀ use ∈ more, ∃ row ∈ desk.codes, which row ∧ row.code = use.code) :
    Recorded after := by
  have same (row : LinkCode) :
      (if which row then { row with consumed := true } else row).code = row.code := by
    split <;> rfl
  refine ⟨?_, fun after isAfter use isUse isCode => ?_, fun use isUse => ?_⟩
  · rw [isCodes, consume, List.map_map]
    have codes : desk.codes.map (LinkCode.code ∘ _) = desk.codes.map LinkCode.code :=
      List.map_congr_left fun row _ => same row
    rw [codes]
    exact recorded.distinct
  · rw [isCodes] at isAfter
    obtain ⟨row, isRow, rfl⟩ := List.mem_map.mp isAfter
    rw [same] at isCode
    split
    case isTrue => rfl
    case isFalse notWhich =>
      rw [isUses] at isUse
      rcases List.mem_append.mp isUse with earlier | isNew
      · exact recorded.consumed row isRow use earlier isCode
      · obtain ⟨other, isOther, isWhich, otherCode⟩ := each use isNew
        have isRowToo : other = row :=
          List.inj_on_of_nodup_map recorded.distinct isOther isRow (otherCode.trans isCode)
        exact absurd (isRowToo ▸ isWhich) notWhich
  · rw [isUses] at isUse
    have found : ∃ row ∈ desk.codes, row.code = use.code := by
      rcases List.mem_append.mp isUse with earlier | isNew
      · exact recorded.known use earlier
      · obtain ⟨row, isRow, -, isCode⟩ := each use isNew
        exact ⟨row, isRow, isCode⟩
    obtain ⟨row, isRow, isCode⟩ := found
    rw [isCodes]
    exact ⟨_, List.mem_map_of_mem isRow, (same row).trans isCode⟩

theorem recorded_createCode {desk : Desk} (recorded : Recorded desk) {code userId : String}
    {expiresAt : ℕ} (untaken : ¬ ∃ row ∈ desk.codes, row.code = code) :
    Recorded (desk.createCode code userId expiresAt) := by
  refine ⟨?_, fun row isRow use isUse isCode => ?_, fun use isUse => ?_⟩
  · unfold Desk.createCode
    rw [List.map_append, List.nodup_append]
    refine ⟨recorded.distinct, List.nodup_singleton _, fun old isOld new isNew => ?_⟩
    obtain ⟨row, isRow, rfl⟩ := List.mem_map.mp isOld
    rw [List.mem_singleton.mp isNew]
    exact fun isCode => untaken ⟨row, isRow, isCode⟩
  · rcases List.mem_append.mp isRow with earlier | isNew
    · exact recorded.consumed row earlier use isUse isCode
    · obtain ⟨old, isOld, oldCode⟩ := recorded.known use isUse
      rw [List.mem_singleton.mp isNew] at isCode
      exact absurd ⟨old, isOld, oldCode.trans isCode⟩ untaken
  · obtain ⟨row, isRow, isCode⟩ := recorded.known use isUse
    exact ⟨row, List.mem_append_left _ isRow, isCode⟩

theorem recorded_link {desk : Desk} (recorded : Recorded desk) {code userId : String}
    {existing : Option ℕ} {chat : Chat} (accepts : desk.Accepts code existing chat) :
    Recorded (desk.link code existing userId chat) := by
  refine recorded_consume recorded rfl rfl fun use isUse => ?_
  obtain ⟨row, isRow, isCode⟩ := accepts.1
  rw [List.mem_singleton.mp isUse]
  exact ⟨row, isRow, isCode, isCode⟩

theorem recorded_invalidateCodes {desk : Desk} (recorded : Recorded desk) (userId : String) :
    Recorded (desk.invalidateCodes userId) := by
  refine recorded_consume recorded rfl rfl fun use isUse => ?_
  obtain ⟨row, isRow, rfl⟩ := List.mem_map.mp isUse
  obtain ⟨member, isUnused⟩ := List.mem_filter.mp isRow
  exact ⟨row, member, of_decide_eq_true isUnused, rfl⟩

theorem recorded_step {step : Step tables} (recorded : Recorded step.before.state) :
    Recorded step.after.state := by
  rw [state_after]
  split
  case isFalse => exact recorded
  case isTrue =>
    cases step.op with
    | invalidateCodes userId => exact recorded_invalidateCodes recorded userId
    | createCode code userId expiresAt =>
      show Recorded (if _ then _ else _)
      split
      case isTrue => exact recorded
      case isFalse untaken => exact recorded_createCode recorded untaken
    | link code existing userId chat =>
      show Recorded (if _ then _ else _)
      split
      case isTrue accepts => exact recorded_link recorded accepts
      case isFalse => exact recorded
    | disconnect disconnected => exact ⟨recorded.distinct, recorded.consumed, recorded.known⟩
    | _ => exact recorded

/-! ### One step -/

theorem lawful_link {desk : Desk} (recorded : Recorded desk) (lawful : Lawful desk)
    {code userId : String} {existing : Option ℕ} {chat : Chat}
    (accepts : desk.Accepts code existing chat) :
    Lawful (desk.link code existing userId chat) ↔ Free desk code existing userId chat.id := by
  have found : ∀ id ∈ existing, id < desk.links.length := by
    rintro id rfl
    exact accepts.2.1
  have isCounted (other : String) :
      (desk.link code existing userId chat).countActive other =
        (desk.others existing).countP (Link.ActiveOf other) +
          if desk.gainer existing userId = other then 1 else 0 :=
    countP_linksWith found userId other chat
  have isUsed : Exclusive (desk.link code existing userId chat).uses ∧
      Timely (desk.link code existing userId chat).uses ↔
        ∀ use ∈ desk.uses, use.code = code → use = .linked code chat.id :=
    uses_linked lawful.exclusive lawful.timely
  constructor
  · intro after
    refine ⟨fun _ => isUsed.mp ⟨after.exclusive, after.timely⟩, ?_⟩
    have bounded := after.bounded (desk.gainer existing userId)
    rwa [isCounted, if_pos rfl] at bounded
  · intro free
    have same : ∀ use ∈ desk.uses, use.code = code → use = .linked code chat.id := by
      intro use isUse isCode
      obtain ⟨row, isRow, rowCode⟩ := accepts.1
      exact free.unused ⟨row, isRow, rowCode,
        recorded.consumed row isRow use isUse (isCode.trans rowCode.symm)⟩ use isUse isCode
    obtain ⟨exclusive, timely⟩ := isUsed.mpr same
    refine ⟨exclusive, timely, fun other => ?_⟩
    rw [isCounted]
    split
    case isTrue isGainer =>
      rw [← isGainer]
      exact free.room
    case isFalse => exact Nat.le_trans (countP_others_le existing other) (lawful.bounded other)

theorem lawful_step_iff {step : Step tables} (recorded : Recorded step.before.state)
    (lawful : Lawful step.before.state) : Lawful step.after.state ↔ Orderly step := by
  obtain ⟨before, caller, op, fate⟩ := step
  rw [state_after]
  by_cases applies : Delivery.Applies fate
  · rw [if_pos applies]
    cases op with
    | link code existing userId chat =>
      show Lawful (if _ then _ else _) ↔ (Delivery.Applies fate → _ → _)
      by_cases accepts : before.state.Accepts code existing chat
      · rw [if_pos accepts, lawful_link recorded lawful accepts]
        exact ⟨fun free _ _ => free, fun orderly => orderly applies accepts⟩
      · rw [if_neg accepts]
        exact ⟨fun _ _ accepted => absurd accepted accepts, fun _ => lawful⟩
    | invalidateCodes userId =>
      obtain ⟨exclusive, timely⟩ := uses_invalidated lawful.exclusive lawful.timely
        (before.state.unused userId)
      exact ⟨fun _ => trivial, fun _ => ⟨exclusive, timely, lawful.bounded⟩⟩
    | createCode code userId expiresAt =>
      refine ⟨fun _ => trivial, fun _ => ?_⟩
      show Lawful (if _ then _ else _)
      split
      · exact lawful
      · exact ⟨lawful.exclusive, lawful.timely, lawful.bounded⟩
    | disconnect disconnected =>
      exact ⟨fun _ => trivial, fun _ => ⟨lawful.exclusive, lawful.timely, fun userId =>
        Nat.le_trans (countActive_disconnect disconnected userId) (lawful.bounded userId)⟩⟩
    | _ => exact ⟨fun _ => trivial, fun _ => lawful⟩
  · rw [if_neg applies]
    cases op with
    | link code existing userId chat =>
      exact ⟨fun _ applied => absurd applied applies, fun _ => lawful⟩
    | _ => exact ⟨fun _ => trivial, fun _ => lawful⟩

/-! ### Runs -/

def Kept (moment : Moment tables) : Prop := Recorded moment.state ∧ Lawful moment.state

theorem kept_start (start : Start) (requests : List Request) :
    Kept (linkingSystem start requests).moment := by
  refine ⟨⟨start.distinct, ?_, ?_⟩, ?_, .nil, start.bounded⟩
  · exact fun row _ use isUse => absurd isUse List.not_mem_nil
  · exact fun use isUse => absurd isUse List.not_mem_nil
  · exact fun code first second isFirst => absurd isFirst List.not_mem_nil

theorem orderly_of_lawful_run {start : Start} {requests : List Request}
    {turns : List (Turn tables)}
    (lawful : ∀ step ∈ (linkingSystem start requests).steps turns, Lawful step.after.state) :
    ∀ step ∈ (linkingSystem start requests).steps turns, Orderly step :=
  (@System.run_keeps tables Response Kept (fun step => Lawful step.after.state) Orderly
    (fun _ kept lawful => ⟨(lawful_step_iff kept.1 kept.2).mp lawful, recorded_step kept.1, lawful⟩)
    _ (kept_start start requests) turns lawful).2

/-- In a run linking is exclusive and bounded if and only if every link that takes effect finds
its code unused, or used by its chat alone, and fewer than three others of its user active. -/
theorem linking_iff (start : Start) (requests : List Request) (turns : List (Turn tables)) :
    (∀ step ∈ (linkingSystem start requests).steps turns, Lawful step.after.state) ↔
      ∀ step ∈ (linkingSystem start requests).steps turns, Orderly step := by
  refine ⟨orderly_of_lawful_run, fun orderly => ?_⟩
  refine (@System.run_keeps tables Response Kept Orderly (fun step => Lawful step.after.state)
    (fun step kept orderly => ?_) _ (kept_start start requests) turns orderly).2
  have lawful := (lawful_step_iff kept.1 kept.2).mpr orderly
  exact ⟨lawful, recorded_step kept.1, lawful⟩

/-- A code, and nothing linked. -/
def invited : Start where
  codes := [⟨"ABCDEFGH", "ann", 60, false⟩]
  links := []
  distinct := by decide
  bounded _ := Nat.zero_le _

def chatOf (id : String) : Chat := ⟨id, none, none⟩

/-- Two chats send the code at once. -/
theorem not_linking :
    ¬ ∀ (start : Start) (requests : List Request) (turns : List (Turn tables)),
      ∀ step ∈ (linkingSystem start requests).steps turns, Lawful step.after.state := by
  intro always
  have orderly := orderly_of_lawful_run (always invited
    [.consumeLinkCode 0 "ABCDEFGH" (chatOf "1"), .consumeLinkCode 0 "ABCDEFGH" (chatOf "2")]
    ([0, 1, 0, 1, 0, 1, 0, 1].map fun caller => ⟨caller, fun _ => .answered⟩))
  exact absurd orderly (by decide +kernel)

end GdslExchange.Telegram
