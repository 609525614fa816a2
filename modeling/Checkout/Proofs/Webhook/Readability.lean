import Checkout.Proofs.Webhook.Collision
import Checkout.Proofs.Webhook.Coverage

/-! What can be read back from a signed text. Nothing stands between the amount and the time, so only
the two together are determined by it; with the time known, the alphabets of the amounts and of the
states tell the id, the state and the amount apart, whatever the id holds. -/
namespace Checkout

/-- A text is cut in one way only at the last of its letters of some kind. -/
lemma Text.cut_unique {p : Char → Prop} {x x' y y' : List Char} {a a' : Char} (ha : p a)
    (ha' : p a') (hy : ∀ c ∈ y, ¬ p c) (hy' : ∀ c ∈ y', ¬ p c)
    (h : x ++ a :: y = x' ++ a' :: y') : x = x' ∧ a = a' ∧ y = y' := by
  rcases List.append_eq_append_iff.mp h with ⟨m,rfl,hm⟩ | ⟨m,rfl,hm⟩
  · cases m with
    | nil =>
      obtain ⟨rfl,rfl⟩ := List.cons.inj hm
      exact ⟨by simp,rfl,rfl⟩
    | cons b m =>
      obtain ⟨-,rfl⟩ := List.cons.inj hm
      exact absurd ha' (hy a' (by simp))
  · cases m with
    | nil =>
      obtain ⟨rfl,rfl⟩ := List.cons.inj hm
      exact ⟨by simp,rfl,rfl⟩
    | cons b m =>
      obtain ⟨-,rfl⟩ := List.cons.inj hm
      exact absurd ha (hy' a (by simp))

namespace Webhook

/-- The time of an event as it is signed. -/
def timeText (payload : Json) : String := wireText (timestamp? payload)

lemma toList_signedText (payload : Json) (secret : String) :
    (signedText payload secret).toList = (signedField payload "id").toList ++
      '-' :: ((signedField payload "status").toList ++
        '-' :: ((signedField payload "amount_in_cents").toList ++
          ((timeText payload).toList ++ secret.toList))) := by
  simp [signedText, timeText]

/-- Without a collision, events with the same id and state have one checksum exactly if the amount
followed by the time is the same text. Neither of the two then changes without the other, and
neither changes at all if one of them keeps its length. -/
theorem checksum_eq_iff_amount_append_time {p q : Json} {secret : String}
    (hid : signedField p "id" = signedField q "id")
    (hstatus : signedField p "status" = signedField q "status")
    (hfree : CollisionFree p q secret) :
    (checksum p secret = checksum q secret ↔
      signedField p "amount_in_cents" ++ timeText p =
        signedField q "amount_in_cents" ++ timeText q) ∧
    (checksum p secret = checksum q secret →
      (signedField p "amount_in_cents" = signedField q "amount_in_cents" ↔
        timeText p = timeText q) ∧
      ((signedField p "amount_in_cents").length = (signedField q "amount_in_cents").length ∨
          (timeText p).length = (timeText q).length →
        signedField p "amount_in_cents" = signedField q "amount_in_cents" ∧
          timeText p = timeText q)) := by
  have hiff : checksum p secret = checksum q secret ↔
      signedField p "amount_in_cents" ++ timeText p =
        signedField q "amount_in_cents" ++ timeText q := by
    rw [checksum_eq_iff hfree, ← String.toList_inj, ← String.toList_inj, toList_signedText,
      toList_signedText, hid, hstatus]
    simp [← List.append_assoc]
  refine ⟨hiff,?_⟩
  intro h
  have happend := congrArg String.toList (hiff.mp h)
  rw [String.toList_append, String.toList_append] at happend
  have hlength := congrArg List.length happend
  rw [List.length_append, List.length_append] at hlength
  simp only [← String.length_toList, ← String.toList_inj]
  refine ⟨⟨?_,?_⟩,?_⟩
  · intro hamount
    rw [hamount] at happend
    exact List.append_cancel_left happend
  · intro htime
    rw [htime] at happend
    exact List.append_cancel_right happend
  · intro hkept
    exact List.append_inj happend (by omega)

/-- The members of a transaction with an id, a state and an amount. -/
def updateMembers (id status : String) (amount : Json) : List (String × Json) :=
  [("amount_in_cents", amount), ("id", .string id), ("status", .string status)]

/-- An event with such a transaction. -/
def event (id status : String) (amount time : Json) : Json :=
  .object [("data", .object [("transaction", .object (updateMembers id status amount))]),
    ("timestamp", time)]

lemma describes_event {id status : String} {amount time : Json} {t : Transaction}
    (h : Transaction.decoder.value (.object (updateMembers id status amount)) = .ok t) :
    Describes (event id status amount time) t :=
  ⟨updateMembers id status amount,status,rfl,rfl,h⟩

/-- An event over 454500 cents. -/
def signedEvent : Json :=
  event "testId" "APPROVED" (.string "454500") (.whole ⟨1530291411,by decide⟩)

/-- The same event with the first digit of its time as the last digit of its amount. -/
def shiftedEvent : Json :=
  event "testId" "APPROVED" (.string "4545001") (.whole ⟨530291411,by decide⟩)

lemma signedText_shiftedEvent :
    signedText signedEvent "test123" = signedText shiftedEvent "test123" := by decide +kernel

lemma id_shiftedEvent : signedField signedEvent "id" = signedField shiftedEvent "id" := by
  decide +kernel

lemma status_shiftedEvent :
    signedField signedEvent "status" = signedField shiftedEvent "status" := by decide +kernel

theorem checksum_shiftedEvent :
    signedField signedEvent "id" = signedField shiftedEvent "id" ∧
    signedField signedEvent "status" = signedField shiftedEvent "status" ∧
    CollisionFree signedEvent shiftedEvent "test123" ∧
    checksum signedEvent "test123" = checksum shiftedEvent "test123" := by
  have hfree := collisionFree_of_signedText_eq signedText_shiftedEvent
  have happend : signedField signedEvent "amount_in_cents" ++ timeText signedEvent =
      signedField shiftedEvent "amount_in_cents" ++ timeText shiftedEvent := by decide +kernel
  have hiff := checksum_eq_iff_amount_append_time id_shiftedEvent status_shiftedEvent hfree
  exact ⟨id_shiftedEvent,status_shiftedEvent,hfree,hiff.1.mpr happend⟩

/-- A value that is a text or a number. -/
def IsTextOrNumber (j : Option Json) : Prop :=
  (∃ s, j = some (.string s)) ∨ ∃ n, j = some (.number n)

/-- One checksum can stand for two amounts. -/
theorem not_checksum_determines_amount : ¬ ∀ (secret : String) (p q : Json),
    signedField p "id" = signedField q "id" → signedField p "status" = signedField q "status" →
    IsTextOrNumber (p.path? ["data", "transaction", "amount_in_cents"]) →
    IsTextOrNumber (q.path? ["data", "transaction", "amount_in_cents"]) →
    IsTextOrNumber (timestamp? p) → IsTextOrNumber (timestamp? q) →
    CollisionFree p q secret → checksum p secret = checksum q secret →
    signedField p "amount_in_cents" = signedField q "amount_in_cents" ∧
      timeText p = timeText q := by
  intro h
  have hsame : checksum signedEvent "test123" = checksum shiftedEvent "test123" := by
    rw [checksum, checksum, signedText_shiftedEvent]
  obtain ⟨hamount,-⟩ := h "test123" signedEvent shiftedEvent id_shiftedEvent status_shiftedEvent
    (.inl ⟨_,rfl⟩) (.inl ⟨_,rfl⟩) (.inr ⟨_,rfl⟩) (.inr ⟨_,rfl⟩)
    (collisionFree_of_signedText_eq signedText_shiftedEvent) hsame
  exact absurd hamount (by decide)

/-- An id, the name of a state and a text without capital letters, joined by dashes, can be told
apart: the last capital letter ends the state and the last dash before it ends the id. -/
theorem joined_unique {x x' a a' : List Char} {s s' : TransactionStatus}
    (ha : ∀ c ∈ a, c.isUpper = false) (ha' : ∀ c ∈ a', c.isUpper = false)
    (h : x ++ '-' :: (s.name.toList ++ '-' :: a) = x' ++ '-' :: (s'.name.toList ++ '-' :: a')) :
    x = x' ∧ s = s' ∧ a = a' := by
  have hlow : ∀ b : List Char, (∀ c ∈ b, c.isUpper = false) →
      ∀ c ∈ '-' :: b, ¬ c.isUpper = true := by
    intro b hb c hc
    rcases List.mem_cons.mp hc with rfl | hc
    · decide
    · simp [hb c hc]
  obtain ⟨front,last,hname,hlast⟩ := s.exists_name_eq_append
  obtain ⟨front',last',hname',hlast'⟩ := s'.exists_name_eq_append
  have hcut : (x ++ '-' :: front) ++ last :: '-' :: a =
      (x' ++ '-' :: front') ++ last' :: '-' :: a' := by simpa [hname, hname'] using h
  obtain ⟨hfront,rfl,htail⟩ :=
    Text.cut_unique (p := fun c => c.isUpper = true) hlast hlast' (hlow a ha) (hlow a' ha') hcut
  have hdash : x ++ '-' :: s.name.toList = x' ++ '-' :: s'.name.toList := by
    rw [hname, hname']
    simpa using congrArg (· ++ [last]) hfront
  obtain ⟨hx,-,hs⟩ := Text.cut_unique (p := (· = '-')) rfl rfl s.dash_notMem_name
    s'.dash_notMem_name hdash
  exact ⟨hx,TransactionStatus.name_injective (String.toList_inj.mp hs),(List.cons.inj htail).2⟩

/-- The amount of a transaction that is described by an event is signed without capital letters. -/
lemma SignedAs.isUpper_amount {payload : Json} {t : Transaction} (h : SignedAs payload t) :
    ∀ c ∈ (signedField payload "amount_in_cents").toList, c.isUpper = false := by
  intro c hc
  have hamount := h.amount
  rw [Text.toList_trim] at hamount
  exact hamount.isUpper_eq_false hc

/-- At one time and without a collision, events with one checksum describe transactions with the
same id, the same state and the same amount. -/
theorem checksum_determines_update {p q : Json} {t u : Transaction} {secret : String}
    (hp : Describes p t) (hq : Describes q u)
    (htime : timeText p = timeText q) (hfree : CollisionFree p q secret)
    (h : checksum p secret = checksum q secret) :
    t.id = u.id ∧ t.status = u.status ∧
      signedField p "amount_in_cents" = signedField q "amount_in_cents" ∧ t.amount = u.amount := by
  have hsp := hp.signedAs
  have hsq := hq.signedAs
  have htext := congrArg String.toList ((checksum_eq_iff hfree).mp h)
  rw [toList_signedText, toList_signedText, htime, hsp.id, hsq.id, hsp.status, hsq.status] at htext
  -- The time and the secret end both texts, so they can be taken off.
  have hended : (t.id.toList ++ '-' :: (t.status.name.toList ++
        '-' :: (signedField p "amount_in_cents").toList)) ++ ((timeText q).toList ++ secret.toList) =
      (u.id.toList ++ '-' :: (u.status.name.toList ++
        '-' :: (signedField q "amount_in_cents").toList)) ++
          ((timeText q).toList ++ secret.toList) := by simpa using htext
  have hjoined := List.append_cancel_right hended
  obtain ⟨hid,hstatus,hamount⟩ := joined_unique hsp.isUpper_amount hsq.isUpper_amount hjoined
  have hfield := String.toList_inj.mp hamount
  have hcents := hsp.amount
  rw [hfield] at hcents
  refine ⟨String.toList_inj.mp hid,hstatus,hfield,?_⟩
  exact Money.Cents.ext (hcents.unique hsq.amount)

/-- An update whose id ends like another update, with an amount in one of its spellings. -/
def dashedEvent (amount : Json) : Json :=
  event "a-VOIDED-1" "APPROVED" amount (.whole ⟨1,by decide⟩)

theorem update_of_dashedEvent : ∃ t u,
    Describes (dashedEvent (.string "-100")) t ∧
    Describes (dashedEvent (.whole ⟨-100,by decide⟩)) u ∧
    CollisionFree (dashedEvent (.string "-100")) (dashedEvent (.whole ⟨-100,by decide⟩)) "k" ∧
    checksum (dashedEvent (.string "-100")) "k" =
      checksum (dashedEvent (.whole ⟨-100,by decide⟩)) "k" ∧
    t.id = u.id ∧ t.status = u.status ∧ t.amount = u.amount := by
  have hsame : signedText (dashedEvent (.string "-100")) "k" =
      signedText (dashedEvent (.whole ⟨-100,by decide⟩)) "k" := by decide +kernel
  have hread : (Transaction.decoder.value (.object
        (updateMembers "a-VOIDED-1" "APPROVED" (.string "-100")))).toOption.isSome ∧
      (Transaction.decoder.value (.object
        (updateMembers "a-VOIDED-1" "APPROVED" (.whole ⟨-100,by decide⟩)))).toOption.isSome := by
    decide +kernel
  obtain ⟨t,ht⟩ := Option.isSome_iff_exists.mp hread.1
  obtain ⟨u,hu⟩ := Option.isSome_iff_exists.mp hread.2
  have hp : Describes (dashedEvent (.string "-100")) t :=
    describes_event (toOption_eq_some_iff.mp ht)
  have hq : Describes (dashedEvent (.whole ⟨-100,by decide⟩)) u :=
    describes_event (toOption_eq_some_iff.mp hu)
  have hchecksum : checksum (dashedEvent (.string "-100")) "k" =
      checksum (dashedEvent (.whole ⟨-100,by decide⟩)) "k" := by rw [checksum, checksum, hsame]
  have hfree := collisionFree_of_signedText_eq hsame
  obtain ⟨hid,hstatus,-,hamount⟩ := checksum_determines_update hp hq rfl hfree hchecksum
  exact ⟨t,u,hp,hq,hfree,hchecksum,hid,hstatus,hamount⟩

end Webhook
end Checkout
