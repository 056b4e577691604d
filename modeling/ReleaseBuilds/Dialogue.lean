/-!
# Dialogues

A computation that needs others to answer its questions. A dialogue is a tree: it has ended, or it
asks a question and goes on with whatever is answered. Nothing is said here about who answers; a
world, which may change from answer to answer, is supplied when a dialogue is held.
-/

namespace ReleaseBuilds

/-- A computation of an `α` that may ask the questions of `Call`. -/
inductive Dialogue (Call : Type) (Answer : Call → Type) (α : Type) where
  | done (value : α)
  | ask (call : Call) (next : Answer call → Dialogue Call Answer α)

namespace Dialogue

variable {Call : Type} {Answer : Call → Type} {α β σ : Type}

/-- A dialogue that goes on where another one ends. -/
def bind (d : Dialogue Call Answer α) (f : α → Dialogue Call Answer β) : Dialogue Call Answer β :=
  match d with
  | .done a => f a
  | .ask call next => .ask call fun answer => bind (next answer) f

instance : Monad (Dialogue Call Answer) where
  pure := .done
  bind := bind

/-- One question, the answer to which is the value. -/
def question (call : Call) : Dialogue Call Answer (Answer call) := .ask call .done

/-- A dialogue for each item of a list, one after the other. -/
def forList (f : α → Dialogue Call Answer β) : List α → Dialogue Call Answer (List β)
  | [] => .done []
  | a :: rest => bind (f a) fun b => bind (forList f rest) fun bs => .done (b :: bs)

/-- A question and the answer that was given to it. -/
structure Exchange (Call : Type) (Answer : Call → Type) where
  call : Call
  answer : Answer call

/-- Who answers, and how answering changes them. -/
abbrev World (Call : Type) (Answer : Call → Type) (σ : Type) := σ → (call : Call) → Answer call × σ

/-- The value of a dialogue that is held with a world, all exchanges in order, and the world
afterwards. -/
def hold (world : World Call Answer σ) :
    Dialogue Call Answer α → σ → α × List (Exchange Call Answer) × σ
  | .done a, s => (a, [], s)
  | .ask call next, s =>
    let (answer, s) := world s call
    let (a, exchanges, s) := hold world (next answer) s
    (a, ⟨call, answer⟩ :: exchanges, s)

/-- The exchanges of a dialogue in order, together with its value: a dialogue ends with a value
after exchanges exactly if it asks these questions when it gets these answers. -/
inductive Ends : Dialogue Call Answer α → List (Exchange Call Answer) → α → Prop where
  | done (a : α) : Ends (.done a) [] a
  | ask (call : Call) (next : Answer call → Dialogue Call Answer α) (answer : Answer call)
      (exchanges : List (Exchange Call Answer)) (a : α) (rest : Ends (next answer) exchanges a) :
      Ends (.ask call next) (⟨call, answer⟩ :: exchanges) a

@[simp] theorem bind_done (a : α) (f : α → Dialogue Call Answer β) : bind (.done a) f = f a := rfl

@[simp] theorem bind_ask (call : Call) (next : Answer call → Dialogue Call Answer α)
    (f : α → Dialogue Call Answer β) :
    bind (.ask call next) f = .ask call fun answer => bind (next answer) f := rfl

/-- Holding a dialogue is one way in which it ends. -/
theorem ends_hold (world : World Call Answer σ) (d : Dialogue Call Answer α) (s : σ) :
    Ends d (d.hold world s).2.1 (d.hold world s).1 := by
  induction d generalizing s with
  | done a => exact .done a
  | ask call next ih => exact .ask call next _ _ _ (ih _ _)

end Dialogue

end ReleaseBuilds
