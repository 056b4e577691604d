/-!
# Task groups that stop at the first failure

Members of a group run side by side under a token of the group. The first member that fails leaves
its error and cancels the token, so that members which watch the token stop early; errors after
the first are dropped. The token is also cancelled when that of the surrounding task is, but the
group never cancels the surrounding task. A group is given by the order in which its members end.
-/

namespace ReleaseBuilds

/-- The state of a group while its members end one after another. -/
structure TaskGroup (ε : Type) where
  parentCancelled : Bool
  /-- The token of the group. -/
  isCancelled : Bool
  firstError : Option ε := none
deriving DecidableEq, Repr

namespace TaskGroup

variable {ε α : Type}

/-- A group in which no member has ended. Its token begins as that of the surrounding task. -/
def start (parentCancelled : Bool) : TaskGroup ε :=
  { parentCancelled, isCancelled := parentCancelled }

/-- The surrounding task is cancelled, and the group with it. -/
def cancelParent (g : TaskGroup ε) : TaskGroup ε :=
  { g with parentCancelled := true, isCancelled := true }

/-- A member fails. Its error is kept if it is the first; the token is cancelled in any case. -/
def fail (g : TaskGroup ε) (e : ε) : TaskGroup ε :=
  { g with firstError := some (g.firstError.getD e), isCancelled := true }

/-- A member ends. Its value is handed on, of its error the group takes note. -/
def finishMember (g : TaskGroup ε) : Except ε α → Option α × TaskGroup ε
  | .ok a => (some a, g)
  | .error e => (none, g.fail e)

/-- The end of the group: the error of the member that failed first, if any did. -/
def finish (g : TaskGroup ε) : Except ε Unit :=
  match g.firstError with
  | none => .ok ()
  | some e => .error e

theorem finish_eq_ok_iff {g : TaskGroup ε} : g.finish = .ok () ↔ g.firstError = none := by
  cases h : g.firstError <;> simp [finish, h]

theorem finish_eq_error_iff {g : TaskGroup ε} {e : ε} :
    g.finish = .error e ↔ g.firstError = some e := by
  cases h : g.firstError <;> simp [finish, h]

/-- A failure shows at the end, unless there was one before it. -/
theorem finish_fail_eq_error_iff {g : TaskGroup ε} {failure e : ε} :
    (g.fail failure).finish = .error e ↔ g.firstError.getD failure = e := by
  rw [finish_eq_error_iff, fail, Option.some.injEq]

/-- Every member that still waits is asked once, in order, whether it ends now. A member that has
ended keeps its outcome. -/
def turn (g : TaskGroup ε) :
    List ((Bool → Option (Except ε α)) × Option (Option α)) →
      List ((Bool → Option (Except ε α)) × Option (Option α)) × TaskGroup ε
  | [] => ([], g)
  | (member, some outcome) :: rest =>
    let (members, g) := g.turn rest
    ((member, some outcome) :: members, g)
  | (member, none) :: rest =>
    match member g.isCancelled with
    | none =>
      let (members, g) := g.turn rest
      ((member, none) :: members, g)
    | some result =>
      let (value, g) := g.finishMember result
      let (members, g) := g.turn rest
      ((member, some value) :: members, g)

/-- Members that end at once or wait for the token are asked in order, and those that wait once more
when the token has been cancelled. A member that waits for ever has no value. -/
def join (g : TaskGroup ε) (members : List (Bool → Option (Except ε α))) :
    List (Option α) × TaskGroup ε :=
  let (once, g) := g.turn (members.map fun member => (member, none))
  let (twice, g) := g.turn once
  (twice.map fun m => m.2.getD none, g)

end TaskGroup

end ReleaseBuilds
