import StylyNetSync.Core.NetworkVariableManager

/-!
# A control sender that records

For statements about a manager on its own, the transport is reduced to what the manager can see of
it: each message handed over is accepted or refused. The answers are given in advance, so that a
theorem about every list of answers is one about every pattern of refusals; a sender that has run
out of answers refuses.
-/

namespace StylyNetSync

/-- The answers still to be given, and the messages handed over with the answer each got. -/
structure SendRecord where
  answers : List Bool
  handed : List (ControlMessage × Bool) := []

namespace SendRecord

def send (message : ControlMessage) (r : SendRecord) : Bool × SendRecord :=
  match r.answers with
  | [] => (false, { r with handed := r.handed ++ [(message, false)] })
  | answer :: rest => (answer, ⟨rest, r.handed ++ [(message, answer)]⟩)

/-- The callbacks of a manager under observation. -/
def callbacks : Callbacks SendRecord := ⟨some send, none⟩

/-- The next answer is given, and the message is recorded with it. -/
theorem trySend_eq (message : ControlMessage) (r : SendRecord) :
    callbacks.trySend message r = (r.answers.headD false,
      ⟨r.answers.tail, r.handed ++ [(message, r.answers.headD false)]⟩) := by
  show r.send message = _
  rw [send]
  rcases r with ⟨- | ⟨answer, rest⟩, handed⟩ <;> rfl

/-- Whatever the answer, the message is recorded with it. -/
theorem handed_of_trySend {message : ControlMessage} {r r' : SendRecord} {answer : Bool}
    (h : callbacks.trySend message r = (answer, r')) :
    r'.handed = r.handed ++ [(message, answer)] := by
  obtain ⟨rfl, rfl⟩ := Prod.mk.inj ((trySend_eq message r).symm.trans h)
  rfl

/-- What is accepted was due to be. -/
theorem answers_of_trySend {message : ControlMessage} {r r' : SendRecord}
    (h : callbacks.trySend message r = (true, r')) : r.answers.head? = some true := by
  have hanswer := (Prod.mk.inj ((trySend_eq message r).symm.trans h)).1
  cases hanswers : r.answers with
  | nil => simp [hanswers] at hanswer
  | cons answer rest => simpa [hanswers] using hanswer

end SendRecord

end StylyNetSync
