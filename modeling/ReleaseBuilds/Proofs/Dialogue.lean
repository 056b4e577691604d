import Mathlib.Data.List.Basic
import ReleaseBuilds.Dialogue

/-!
# How dialogues end

A dialogue that is put together from others ends exactly as its parts end, one after the other.
What a part asks and what it comes to is read off the exchanges with the equations of this file;
no later proof looks at the tree itself.
-/

namespace ReleaseBuilds.Dialogue

variable {Call : Type} {Answer : Call → Type} {α β : Type}

@[simp] theorem monad_bind (d : Dialogue Call Answer α) (f : α → Dialogue Call Answer β) :
    (d >>= f) = bind d f := rfl

@[simp] theorem monad_pure (a : α) : (pure a : Dialogue Call Answer α) = .done a := rfl

@[simp] theorem ends_done_iff {a b : α} {exchanges : List (Exchange Call Answer)} :
    Ends (.done a : Dialogue Call Answer α) exchanges b ↔ exchanges = [] ∧ b = a := by
  constructor
  · intro hends
    cases hends
    exact ⟨rfl, rfl⟩
  · rintro ⟨rfl, rfl⟩
    exact .done b

theorem ends_ask_iff {call : Call} {next : Answer call → Dialogue Call Answer α} {a : α}
    {exchanges : List (Exchange Call Answer)} :
    Ends (.ask call next) exchanges a ↔
      ∃ answer rest, exchanges = ⟨call, answer⟩ :: rest ∧ Ends (next answer) rest a := by
  constructor
  · intro hends
    cases hends with
    | ask _ _ answer rest _ hrest => exact ⟨answer, rest, rfl, hrest⟩
  · rintro ⟨answer, rest, rfl, hrest⟩
    exact .ask call next answer rest a hrest

@[simp] theorem ends_question_iff {call : Call} {answer : Answer call}
    {exchanges : List (Exchange Call Answer)} :
    Ends (question call) exchanges answer ↔ exchanges = [⟨call, answer⟩] := by
  rw [question, ends_ask_iff]
  constructor
  · rintro ⟨given, rest, rfl, hrest⟩
    obtain ⟨rfl, rfl⟩ := ends_done_iff.mp hrest
    rfl
  · rintro rfl
    exact ⟨answer, [], rfl, .done answer⟩

/-- The exchanges of two dialogues held one after the other split where the first one ends. -/
theorem ends_bind_iff {d : Dialogue Call Answer α} {f : α → Dialogue Call Answer β} {b : β}
    {exchanges : List (Exchange Call Answer)} :
    Ends (bind d f) exchanges b ↔
      ∃ first second a, exchanges = first ++ second ∧ Ends d first a ∧ Ends (f a) second b := by
  induction d generalizing exchanges with
  | done a =>
      rw [bind_done]
      constructor
      · intro hends
        exact ⟨[], exchanges, a, rfl, .done a, hends⟩
      · rintro ⟨first, second, value, rfl, hfirst, hsecond⟩
        obtain ⟨rfl, rfl⟩ := ends_done_iff.mp hfirst
        exact hsecond
  | ask call next ih =>
      rw [bind_ask, ends_ask_iff]
      constructor
      · rintro ⟨answer, rest, rfl, hrest⟩
        obtain ⟨first, second, a, rfl, hfirst, hsecond⟩ := (ih answer).mp hrest
        exact ⟨⟨call, answer⟩ :: first, second, a, rfl, .ask _ _ _ _ _ hfirst, hsecond⟩
      · rintro ⟨first, second, a, rfl, hfirst, hsecond⟩
        obtain ⟨answer, rest, rfl, hrest⟩ := ends_ask_iff.mp hfirst
        exact ⟨answer, rest ++ second, rfl, (ih answer).mpr ⟨rest, second, a, rfl, hrest, hsecond⟩⟩

theorem hold_ask {σ : Type} (world : World Call Answer σ) (call : Call)
    (next : Answer call → Dialogue Call Answer α) (start : σ) :
    (Dialogue.ask call next).hold world start =
      let rest := (next (world start call).1).hold world (world start call).2
      (rest.1, ⟨call, (world start call).1⟩ :: rest.2.1, rest.2.2) := rfl

/-- A world holds two dialogues one after the other, the second one as the first one leaves it. -/
theorem hold_bind {σ : Type} {world : World Call Answer σ} {d : Dialogue Call Answer α}
    {f : α → Dialogue Call Answer β} {start middle last : σ} {a : α} {b : β}
    {first second : List (Exchange Call Answer)} (hfirst : d.hold world start = (a, first, middle))
    (hsecond : (f a).hold world middle = (b, second, last)) :
    (bind d f).hold world start = (b, first ++ second, last) := by
  induction d generalizing start first with
  | done value =>
      cases hfirst
      exact hsecond
  | ask call next ih =>
      rw [hold_ask] at hfirst
      obtain ⟨rfl, hrest⟩ := Prod.mk.inj hfirst
      obtain ⟨rfl, rfl⟩ := Prod.mk.inj hrest
      rw [bind_ask, hold_ask, ih _ rfl]
      rfl

/-- A dialogue in which every question has one answer can only end in one way. -/
theorem Ends.unique {d : Dialogue Call Answer α} {first second : List (Exchange Call Answer)}
    {a b : α} {answers : (call : Call) → Answer call} (hfirst : Ends d first a)
    (hsecond : Ends d second b) (hfirst_answers : ∀ x ∈ first, x.answer = answers x.call)
    (hsecond_answers : ∀ x ∈ second, x.answer = answers x.call) : first = second ∧ a = b := by
  induction hfirst generalizing second b with
  | done a =>
      obtain ⟨rfl, rfl⟩ := ends_done_iff.mp hsecond
      exact ⟨rfl, rfl⟩
  | ask call next answer rest a hrest ih =>
      obtain ⟨other, others, rfl, hothers⟩ := ends_ask_iff.mp hsecond
      obtain ⟨hanswer, hrest_answers⟩ := List.forall_mem_cons.mp hfirst_answers
      obtain ⟨hother, hothers_answers⟩ := List.forall_mem_cons.mp hsecond_answers
      obtain rfl : answer = other := hanswer.trans hother.symm
      obtain ⟨rfl, rfl⟩ := ih hothers hrest_answers hothers_answers
      exact ⟨rfl, rfl⟩

/-- The exchanges of a dialogue and what it comes to, if every question has one answer. -/
def answered (d : Dialogue Call Answer α) (answers : (call : Call) → Answer call) :
    List (Exchange Call Answer) × α :=
  let (a, exchanges, _) := d.hold (fun _ call => (answers call, ())) ()
  (exchanges, a)

theorem answer_of_mem_answered {d : Dialogue Call Answer α} {answers : (call : Call) → Answer call}
    {x : Exchange Call Answer} (hx : x ∈ (d.answered answers).1) : x.answer = answers x.call := by
  induction d with
  | done => exact absurd hx List.not_mem_nil
  | ask call next ih =>
      rcases List.mem_cons.mp hx with rfl | hx
      · rfl
      · exact ih _ hx

/-- Whatever is answered, a dialogue ends. -/
theorem exists_answered (d : Dialogue Call Answer α) (answers : (call : Call) → Answer call) :
    ∃ exchanges a, d.answered answers = (exchanges, a) ∧ Ends d exchanges a ∧
      ∀ x ∈ exchanges, x.answer = answers x.call :=
  ⟨(d.answered answers).1, (d.answered answers).2, rfl, ends_hold _ d (),
    fun _ => answer_of_mem_answered⟩

/-- A dialogue for each item of a list ends as the dialogues of the items do, in their order. -/
theorem ends_forList_iff {f : α → Dialogue Call Answer β} {items : List α} {values : List β}
    {exchanges : List (Exchange Call Answer)} :
    Ends (forList f items) exchanges values ↔
      ∃ talks : List (α × List (Exchange Call Answer) × β),
        talks.map Prod.fst = items ∧ (∀ talk ∈ talks, Ends (f talk.1) talk.2.1 talk.2.2) ∧
          exchanges = talks.flatMap (fun talk => talk.2.1) ∧
          values = talks.map (fun talk => talk.2.2) := by
  induction items generalizing exchanges values with
  | nil =>
      rw [forList, ends_done_iff]
      constructor
      · rintro ⟨rfl, rfl⟩
        exact ⟨[], rfl, by simp, rfl, rfl⟩
      · rintro ⟨talks, hitems, -, rfl, rfl⟩
        obtain rfl := List.map_eq_nil_iff.mp hitems
        exact ⟨rfl, rfl⟩
  | cons item rest ih =>
      simp only [forList, ends_bind_iff, ends_done_iff]
      constructor
      · rintro ⟨first, _, value, rfl, hfirst, second, _, values, rfl, hsecond, rfl, rfl⟩
        obtain ⟨talks, hitems, htalks, rfl, rfl⟩ := ih.mp hsecond
        refine ⟨(item, first, value) :: talks, by simp [hitems], ?_, by simp, rfl⟩
        intro talk htalk
        rcases List.mem_cons.mp htalk with rfl | htalk
        · exact hfirst
        · exact htalks talk htalk
      · rintro ⟨talks, hitems, htalks, rfl, rfl⟩
        obtain ⟨⟨_, first, value⟩, talks, rfl, rfl, rfl⟩ := List.map_eq_cons_iff.mp hitems
        have hrest := ih.mpr ⟨talks, rfl, fun talk htalk =>
          htalks talk (List.mem_cons_of_mem _ htalk), rfl, rfl⟩
        refine ⟨first, talks.flatMap (fun talk => talk.2.1), value, by simp,
          htalks _ List.mem_cons_self, talks.flatMap (fun talk => talk.2.1), [], _, by simp, hrest,
          rfl, rfl⟩

/-- If every item is one exchange, so is every item of the list, whatever is answered. -/
theorem ends_forList_exchange_iff {f : α → Dialogue Call Answer β} {items : List α}
    {values : List β} {exchanges : List (Exchange Call Answer)}
    (exchange : α → β → Exchange Call Answer)
    (hf : ∀ item exchanges value, Ends (f item) exchanges value ↔
      exchanges = [exchange item value]) :
    Ends (forList f items) exchanges values ↔
      ∃ answers : List (α × β), answers.map Prod.fst = items ∧
        exchanges = answers.map (fun answer => exchange answer.1 answer.2) ∧
          values = answers.map Prod.snd := by
  rw [ends_forList_iff]
  constructor
  · rintro ⟨talks, rfl, htalks, rfl, rfl⟩
    refine ⟨talks.map (fun talk => (talk.1, talk.2.2)), by simp, ?_, by simp⟩
    rw [List.map_map, List.map_eq_flatMap]
    apply List.flatMap_congr
    intro talk htalk
    exact (hf _ _ _).mp (htalks talk htalk)
  · rintro ⟨answers, rfl, rfl, rfl⟩
    refine ⟨answers.map (fun answer => (answer.1, [exchange answer.1 answer.2], answer.2)),
      by simp, ?_, ?_, by simp⟩
    · intro talk htalk
      obtain ⟨answer, -, rfl⟩ := List.mem_map.mp htalk
      exact (hf _ _ _).mpr rfl
    · rw [List.map_eq_flatMap, List.flatMap_map]

end ReleaseBuilds.Dialogue
