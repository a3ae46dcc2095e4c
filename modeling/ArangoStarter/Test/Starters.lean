import Mathlib.Algebra.BigOperators.Group.List
import ArangoStarter.Service.WaitGroup

/-!
# Waiting on several starters at once

`WaitUntilStarterReady` and `SendIntrAndWait` (src/test/util.go) wait on
every starter of a test at once.  For each starter the caller calls
`g.Add(1)` and starts a goroutine that captures the starter
(`starter := starter`) and waits on it.  When the wait fails, the goroutine
sets the shared `result` to `false` and reports the error with `t.Errorf`.
The deferred `g.Done()` ends it.  `SendIntrAndWait` then interrupts every
starter.  The caller returns `result` after `g.Wait()`.

The goroutines write `result` without a lock.  This module runs the caller
and the goroutines in every interleaving of their statements.  A state holds
the caller's statements still to run, the WaitGroup's counter, the started
goroutines with the starter each captured and where it is, `result`, the
errors reported and the interrupts sent.  `ok k` says whether the wait on
the `k`-th starter returns without an error (`ExpectTimeout` of the
readiness line within a minute, or `WaitTimeout` within 30 s), and
`errText k` is `describe` of its error.

* `WaitersInv` is the invariant: the goroutines started, with those still to
  start, wait on the starters in order; the counter is the number of
  goroutines that have not called `Done`, plus the `go` statements still to
  run, minus the `Add` calls still to run; `result` is `false` exactly when
  a goroutine whose wait failed has cleared it; and the errors reported are
  those of the goroutines past their `t.Errorf`.  `waitersStep_inv` keeps it.
* `waitersStep_stepsLeft`: every statement brings the number of statements
  that can still run down, so every run is finite.
* `WaitersInv.progress`: a state where `Wait` has not returned lets some
  statement run.
* `waitUntilStarterReady_run` and `sendIntrAndWait_run`: in every
  interleaving, a run is at most `6 n + 1` (or `7 n + 1`) statements long,
  it can go on until `Wait` returns, and then `result` is `true` exactly
  when every wait succeeded, and the errors reported are those of the failed
  waits, one each, in some order.  `SendIntrAndWait` has interrupted every
  starter once, in order.
-/

namespace ArangoStarter.Test

open Go

/-! ## The caller and the goroutines -/

/-- A statement of the caller before `g.Wait()`. -/
inductive WaiterCall
  /-- `g.Add(1)`. -/
  | add
  /-- The `go` statement of the loop's turn for the `k`-th starter; the
  goroutine captures that starter. -/
  | go (k : Nat)
  /-- `starter.Term.SendIntr()` for the `k`-th starter. -/
  | sendIntr (k : Nat)
deriving DecidableEq

/-- The starter whose goroutine a statement starts. -/
def WaiterCall.goStarter : WaiterCall → Option Nat
  | .go k => some k
  | _ => none

/-- The starter that a statement interrupts. -/
def WaiterCall.intrTarget : WaiterCall → Option Nat
  | .sendIntr k => some k
  | _ => none

/-- The loop `for _, starter := range starters` over `n` starters: `g.Add(1)`
and a goroutine for each. -/
def startWaiters (n : Nat) : List WaiterCall := (List.range n).flatMap fun k => [.add, .go k]

/-- What sets the two helpers apart: the caller's statements before
`g.Wait()`, and the text that `t.Errorf` puts before the description of the
error. -/
structure Waiters where
  calls : List WaiterCall
  message : GoString

/-- `WaitUntilStarterReady(t, what, starters...)` over `n` starters.  `what`
only names the readiness line that `ExpectTimeout` looks for. -/
def waitUntilStarterReady (n : Nat) : Waiters :=
  ⟨startWaiters n, ascii "Starter is not ready in time: "⟩

/-- `SendIntrAndWait(t, starters...)` over `n` starters: after the loop, and
a sleep of a second that is not modelled, it interrupts every starter in
order. -/
def sendIntrAndWait (n : Nat) : Waiters :=
  ⟨startWaiters n ++ (List.range n).map .sendIntr, ascii "Starter is not stopped in time: "⟩

/-- The error that the goroutine of the `k`-th starter reports:
`t.Errorf(message + "%s", describe(err))`. -/
def Waiters.errorMessage (w : Waiters) (errText : Nat → GoString) (k : Nat) : GoString :=
  w.message ++ errText k

/-- Where a goroutine is. -/
inductive WaiterPhase
  /-- The wait on its starter has not returned. -/
  | waiting
  /-- The wait returned an error, and `result = false` has not run. -/
  | erred
  /-- `result = false` has run, and `t.Errorf` has not. -/
  | cleared
  /-- The body has returned, and the deferred `g.Done()` has not run. -/
  | returned
  /-- `g.Done()` has run. -/
  | done
deriving DecidableEq

/-- The caller's statements still to run, the WaitGroup's counter, the started
goroutines with their starters, `result`, the errors reported, the starters
interrupted, and whether `Wait` returned. -/
structure WaitersState where
  pending : List WaiterCall
  counter : Int
  goroutines : List (Nat × WaiterPhase)
  result : Bool
  errors : List GoString
  sent : List Nat
  waited : Bool

/-- A statement of one of the goroutines. -/
inductive WaitersAction
  /-- The caller runs its next statement. -/
  | call
  /-- The caller's `g.Wait()` returns. -/
  | wait
  /-- The `i`-th started goroutine runs its next statement. -/
  | step (i : Nat)

/-- The state after `g := sync.WaitGroup{}` and `result := true`. -/
def WaitersState.init (w : Waiters) : WaitersState := ⟨w.calls, 0, [], true, [], [], false⟩

/-- What a statement of the caller does: `g.Add(1)` counts one up, a `go`
statement starts a goroutine that waits on its starter, and `SendIntr`
interrupts a starter. -/
def WaitersState.perform (st : WaitersState) (rest : List WaiterCall) (c : WaiterCall) : WaitersState :=
  { st with
    pending := rest
    counter := st.counter + if c = .add then 1 else 0
    goroutines := st.goroutines ++ (c.goStarter.map fun k => (k, WaiterPhase.waiting)).toList
    sent := st.sent ++ c.intrTarget.toList }

/-- The next statement of the `i`-th goroutine, which waits on the `k`-th
starter and is at `ph`. -/
def WaitersState.advance (w : Waiters) (ok : Nat → Bool) (errText : Nat → GoString)
    (st : WaitersState) (i k : Nat) : WaiterPhase → Option WaitersState
  | .waiting =>
    some { st with goroutines := st.goroutines.set i (k, if ok k then .returned else .erred) }
  | .erred => some { st with goroutines := st.goroutines.set i (k, .cleared), result := false }
  | .cleared =>
    some { st with
      goroutines := st.goroutines.set i (k, .returned)
      errors := st.errors ++ [w.errorMessage errText k] }
  | .returned =>
    some { st with goroutines := st.goroutines.set i (k, .done), counter := st.counter - 1 }
  | .done => none

/-- One statement, where it can run.  `Wait` returns once the counter is zero
after the caller's last statement. -/
def waitersStep (w : Waiters) (ok : Nat → Bool) (errText : Nat → GoString) (st : WaitersState) :
    WaitersAction → Option WaitersState
  | .call =>
    match st.pending with
    | [] => none
    | c :: rest => some (st.perform rest c)
  | .wait =>
    if st.pending = [] ∧ st.counter = 0 ∧ st.waited = false then some { st with waited := true }
    else none
  | .step i =>
    match st.goroutines[i]? with
    | some (k, ph) => st.advance w ok errText i k ph
    | none => none

/-- A run: the statements one after the other, as long as each can run. -/
def waitersRun (w : Waiters) (ok : Nat → Bool) (errText : Nat → GoString) :
    WaitersState → List WaitersAction → Option WaitersState
  | st, [] => some st
  | st, a :: as => (waitersStep w ok errText st a).bind fun st' => waitersRun w ok errText st' as

/-! ## Runs are finite -/

/-- The statements a caller's statement stands for at most: itself, and for
a `go` statement the four of the goroutine it starts. -/
def WaiterCall.weight : WaiterCall → Nat
  | .go _ => 5
  | _ => 1

/-- The statements a goroutine has still to run at most. -/
def WaiterPhase.remaining : WaiterPhase → Nat
  | .waiting => 4
  | .erred => 3
  | .cleared => 2
  | .returned => 1
  | .done => 0

/-- The statements that can still run at most, `Wait` included. -/
def WaitersState.stepsLeft (st : WaitersState) : Nat :=
  (st.pending.map WaiterCall.weight).sum + (st.goroutines.map fun g => g.2.remaining).sum +
    if st.waited then 0 else 1

theorem sum_map_set_lt {α : Type} (f : α → Nat) :
    ∀ {l : List α} {i : Nat} {a b : α}, l[i]? = some a → f b < f a →
      ((l.set i b).map f).sum < (l.map f).sum
  | [], _, _, _, h, _ => by simp at h
  | c :: l, 0, a, b, h, hf => by
    simp only [List.getElem?_cons_zero, Option.some.injEq] at h
    subst h
    simp only [List.set_cons_zero, List.map_cons, List.sum_cons]
    omega
  | c :: l, i + 1, a, b, h, hf => by
    simp only [List.getElem?_cons_succ] at h
    have := sum_map_set_lt f h hf
    simp only [List.set_cons_succ, List.map_cons, List.sum_cons]
    omega

/-- A goroutine's statement moves it on. -/
theorem advance_stepsLeft {w : Waiters} {ok : Nat → Bool} {errText : Nat → GoString}
    {st st' : WaitersState} {i k : Nat} {ph : WaiterPhase} (hg : st.goroutines[i]? = some (k, ph))
    (h : st.advance w ok errText i k ph = some st') : st'.stepsLeft < st.stepsLeft := by
  have hlt : ∀ ph', ph'.remaining < ph.remaining →
      ((st.goroutines.set i (k, ph')).map fun g => g.2.remaining).sum <
        (st.goroutines.map fun g => g.2.remaining).sum :=
    fun ph' hph => sum_map_set_lt (fun g : Nat × WaiterPhase => g.2.remaining) hg hph
  cases ph <;> cases h <;> simp only [WaitersState.stepsLeft]
  case waiting =>
    have := hlt (if ok k then .returned else .erred) (by split <;> decide)
    omega
  case erred =>
    have := hlt .cleared (by decide)
    omega
  case cleared =>
    have := hlt .returned (by decide)
    omega
  case returned =>
    have := hlt .done (by decide)
    omega

/-- Every statement brings the number of statements that can still run
down. -/
theorem waitersStep_stepsLeft {w : Waiters} {ok : Nat → Bool} {errText : Nat → GoString}
    {st st' : WaitersState} {a : WaitersAction} (h : waitersStep w ok errText st a = some st') :
    st'.stepsLeft < st.stepsLeft := by
  cases a with
  | call =>
    simp only [waitersStep] at h
    split at h
    · cases h
    · rename_i c rest hp
      cases h
      simp only [WaitersState.stepsLeft, WaitersState.perform, hp, List.map_cons, List.sum_cons,
        List.map_append, List.sum_append]
      cases c with
      | go k =>
        simp only [WaiterCall.weight, WaiterCall.goStarter, Option.map_some', Option.toList_some,
          List.map_cons, List.map_nil, List.sum_cons, List.sum_nil, WaiterPhase.remaining]
        omega
      | add | sendIntr _ => simp [WaiterCall.weight, WaiterCall.goStarter]
  | wait =>
    simp only [waitersStep] at h
    split at h
    · rename_i hw
      cases h
      simp [WaitersState.stepsLeft, hw.2.2]
    · cases h
  | step i =>
    simp only [waitersStep] at h
    split at h
    · exact advance_stepsLeft ‹_› h
    · cases h

/-- A run takes at most as many statements as the state it starts from
allows. -/
theorem waitersRun_length {w : Waiters} {ok : Nat → Bool} {errText : Nat → GoString} :
    ∀ {st st' : WaitersState} (acts : List WaitersAction), waitersRun w ok errText st acts = some st' →
      acts.length + st'.stepsLeft ≤ st.stepsLeft
  | _, _, [], h => by cases h; simp
  | _, _, a :: acts, h => by
    obtain ⟨st₁, h₁, h⟩ := Option.bind_eq_some.1 h
    have := waitersRun_length acts h
    have := waitersStep_stepsLeft h₁
    simp only [List.length_cons]
    omega

/-! ## The invariant -/

/-- The goroutines that have not called `Done`. -/
def WaitersState.live (st : WaitersState) : Nat := st.goroutines.countP fun g => g.2 != .done

/-- A goroutine whose wait failed has run `result = false`. -/
def WaiterPhase.wroteResult (failed : Bool) : WaiterPhase → Bool
  | .cleared | .returned | .done => failed
  | .waiting | .erred => false

/-- A goroutine whose wait failed has reported its error. -/
def WaiterPhase.reported (failed : Bool) : WaiterPhase → Bool
  | .returned | .done => failed
  | .waiting | .erred | .cleared => false

/-- What holds in every state of a run of `w`. -/
structure WaitersInv (w : Waiters) (ok : Nat → Bool) (errText : Nat → GoString) (st : WaitersState) :
    Prop where
  started : st.goroutines.map Prod.fst ++ st.pending.filterMap WaiterCall.goStarter =
    w.calls.filterMap WaiterCall.goStarter
  sent : st.sent ++ st.pending.filterMap WaiterCall.intrTarget = w.calls.filterMap WaiterCall.intrTarget
  counter : st.counter + st.pending.count .add =
    ((st.live + (st.pending.filterMap WaiterCall.goStarter).length : Nat) : Int)
  failed : ∀ g ∈ st.goroutines, g.2 = .erred ∨ g.2 = .cleared → ok g.1 = false
  result : st.result = true ↔ st.goroutines.countP (fun g => g.2.wroteResult (!ok g.1)) = 0
  errors : ∀ e, st.errors.count e =
    st.goroutines.countP fun g => g.2.reported (!ok g.1) && w.errorMessage errText g.1 == e
  waited : st.waited = true → st.pending = [] ∧ st.live = 0

theorem countP_set_of_getElem? {α : Type} (p : α → Bool) {l : List α} {i : Nat} {a : α} (b : α)
    (h : l[i]? = some a) :
    (if p a then 1 else 0) ≤ l.countP p ∧
      (l.set i b).countP p + (if p a then 1 else 0) = l.countP p + (if p b then 1 else 0) := by
  obtain ⟨hi, hget⟩ := List.getElem?_eq_some_iff.1 h
  have hle := List.boole_getElem_le_countP p l i hi
  rw [hget] at hle
  rw [List.countP_set _ _ _ _ hi, hget]
  exact ⟨hle, by omega⟩

theorem map_fst_set_of_getElem? {gs : List (Nat × WaiterPhase)} {i k : Nat} {ph : WaiterPhase}
    (ph' : WaiterPhase) (h : gs[i]? = some (k, ph)) : (gs.set i (k, ph')).map Prod.fst = gs.map Prod.fst := by
  rw [List.map_set]
  exact set_self_of_getElem? (by rw [List.getElem?_map, h]; rfl)

theorem waitersInv_init {w : Waiters} (ok : Nat → Bool) (errText : Nat → GoString)
    (h : w.calls.count .add = (w.calls.filterMap WaiterCall.goStarter).length) :
    WaitersInv w ok errText (WaitersState.init w) :=
  ⟨rfl, rfl, by simp [WaitersState.init, WaitersState.live, h], by simp [WaitersState.init],
    by simp [WaitersState.init], by simp [WaitersState.init], fun h => by cases h⟩

/-- A statement of the caller keeps the invariant. -/
theorem WaitersInv.perform {w : Waiters} {ok : Nat → Bool} {errText : Nat → GoString}
    {st : WaitersState} {c : WaiterCall} {rest : List WaiterCall} (hi : WaitersInv w ok errText st)
    (hp : st.pending = c :: rest) : WaitersInv w ok errText (st.perform rest c) := by
  obtain ⟨hstarted, hsent, hcount, hfailed, hresult, herrors, hwaited⟩ := hi
  rw [hp] at hstarted hsent hcount
  have hw : st.waited = false :=
    Bool.eq_false_iff.2 fun h => List.cons_ne_nil c rest (hp ▸ (hwaited h).1)
  refine ⟨?_, ?_, ?_, fun g hg => ?_, ?_, fun e => ?_, fun h => absurd h (by simp [WaitersState.perform, hw])⟩
  · rw [← hstarted]
    cases c <;> simp [WaitersState.perform, WaiterCall.goStarter]
  · rw [← hsent]
    cases c <;> simp [WaitersState.perform, WaiterCall.intrTarget]
  · cases c <;> simp [WaitersState.perform, WaitersState.live, WaiterCall.goStarter] at hcount ⊢ <;>
      omega
  · simp only [WaitersState.perform, List.mem_append] at hg
    rcases hg with hg | hg
    · exact hfailed g hg
    · cases c <;> simp [WaiterCall.goStarter] at hg
      subst hg
      simp
  · cases c <;> simp [WaitersState.perform, WaiterCall.goStarter, WaiterPhase.wroteResult, hresult]
  · cases c <;> simp [WaitersState.perform, WaiterCall.goStarter, WaiterPhase.reported, herrors]

/-- Moving one live goroutine from `ph` on to `ph'` keeps the invariant when
the counter, `result` and the errors move with it: `Done` counts down, a
cleared `result` stays cleared, and an error is reported once. -/
theorem WaitersInv.setPhase {w : Waiters} {ok : Nat → Bool} {errText : Nat → GoString}
    {st : WaitersState} {i k : Nat} {ph : WaiterPhase} (hi : WaitersInv w ok errText st)
    (hg : st.goroutines[i]? = some (k, ph)) (hlive : ph ≠ .done) (ph' : WaiterPhase)
    (hfail : ph' = .erred ∨ ph' = .cleared → ok k = false)
    (hwrote : ph.wroteResult (!ok k) = true → ph'.wroteResult (!ok k) = true)
    (hrep : ph.reported (!ok k) = true → ph'.reported (!ok k) = true) :
    WaitersInv w ok errText { st with
      goroutines := st.goroutines.set i (k, ph')
      counter := st.counter - if ph' = .done then 1 else 0
      result := st.result && !(ph'.wroteResult (!ok k) && !ph.wroteResult (!ok k))
      errors := st.errors ++
        if ph'.reported (!ok k) && !ph.reported (!ok k) then [w.errorMessage errText k] else [] } := by
  obtain ⟨hstarted, hsent, hcount, hfailed, hresult, herrors, hwaited⟩ := hi
  have hcp := fun p : Nat × WaiterPhase → Bool => countP_set_of_getElem? p (k, ph') hg
  have hpos : 0 < st.live := List.countP_pos_iff.2 ⟨_, List.getElem?_mem hg, by simpa using hlive⟩
  refine ⟨by rw [map_fst_set_of_getElem? ph' hg]; exact hstarted, hsent, ?_, fun g hg' hph => ?_, ?_,
    fun e => ?_, fun h => absurd (hwaited h).2 (by omega)⟩
  · obtain ⟨-, h⟩ := hcp fun g => g.2 != .done
    simp only [WaitersState.live] at hcount hpos ⊢
    by_cases h' : ph' = .done <;> simp [h', hlive] at h ⊢ <;> omega
  · rcases List.mem_or_eq_of_mem_set hg' with hg' | rfl
    · exact hfailed g hg' hph
    · exact hfail hph
  · obtain ⟨hle, h⟩ := hcp fun g => g.2.wroteResult (!ok g.1)
    rw [Bool.and_eq_true, hresult]
    cases hw : ph.wroteResult (!ok k) <;> cases hw' : ph'.wroteResult (!ok k) <;>
      simp [hw, hw', -List.countP_eq_zero] at hle h hwrote ⊢ <;> omega
  · obtain ⟨-, h⟩ := hcp fun g => g.2.reported (!ok g.1) && w.errorMessage errText g.1 == e
    rw [List.count_append, herrors e]
    cases hr : ph.reported (!ok k) <;> cases hr' : ph'.reported (!ok k) <;>
      by_cases he : w.errorMessage errText k = e <;> simp [hr, hr', he, List.count_cons] at h hrep ⊢ <;>
      omega

/-- A statement of a goroutine keeps the invariant. -/
theorem WaitersInv.advance {w : Waiters} {ok : Nat → Bool} {errText : Nat → GoString}
    {st st' : WaitersState} {i k : Nat} {ph : WaiterPhase} (hi : WaitersInv w ok errText st)
    (hg : st.goroutines[i]? = some (k, ph)) (h : st.advance w ok errText i k ph = some st') :
    WaitersInv w ok errText st' := by
  have hfailed := fun hph => hi.failed _ (List.getElem?_mem hg) hph
  cases ph <;> cases h
  case waiting =>
    cases hok : ok k
    · simpa [hok, WaiterPhase.wroteResult, WaiterPhase.reported] using
        hi.setPhase hg (by decide) .erred (fun _ => hok) (by simp [WaiterPhase.wroteResult])
          (by simp [WaiterPhase.reported])
    · simpa [hok, WaiterPhase.wroteResult, WaiterPhase.reported] using
        hi.setPhase hg (by decide) .returned (by simp) (by simp [WaiterPhase.wroteResult])
          (by simp [WaiterPhase.reported])
  case erred =>
    have hok := hfailed (.inl rfl)
    simpa [hok, WaiterPhase.wroteResult, WaiterPhase.reported] using
      hi.setPhase hg (by decide) .cleared (fun _ => hok) (by simp [WaiterPhase.wroteResult])
        (by simp [WaiterPhase.reported])
  case cleared =>
    have hok := hfailed (.inr rfl)
    simpa [hok, WaiterPhase.wroteResult, WaiterPhase.reported] using
      hi.setPhase hg (by decide) .returned (by simp) (by simp [WaiterPhase.wroteResult])
        (by simp [WaiterPhase.reported])
  case returned =>
    simpa [WaiterPhase.wroteResult, WaiterPhase.reported] using
      hi.setPhase hg (by decide) .done (by simp) (by simp [WaiterPhase.wroteResult])
        (by simp [WaiterPhase.reported])

/-- Every statement keeps the invariant. -/
theorem waitersStep_inv {w : Waiters} {ok : Nat → Bool} {errText : Nat → GoString}
    {st st' : WaitersState} {a : WaitersAction} (hi : WaitersInv w ok errText st)
    (h : waitersStep w ok errText st a = some st') : WaitersInv w ok errText st' := by
  cases a with
  | call =>
    simp only [waitersStep] at h
    split at h
    · cases h
    · cases h
      exact hi.perform ‹_›
  | wait =>
    simp only [waitersStep] at h
    split at h
    · rename_i hw
      cases h
      have hc := hi.counter
      simp only [hw.1, hw.2.1, List.count_nil, List.filterMap_nil, List.length_nil] at hc
      exact ⟨hi.started, hi.sent, hi.counter, hi.failed, hi.result, hi.errors,
        fun _ => ⟨hw.1, by simp only [WaitersState.live] at hc ⊢; omega⟩⟩
    · cases h
  | step i =>
    simp only [waitersStep] at h
    split at h
    · exact hi.advance ‹_› h
    · cases h

/-- Every run keeps the invariant. -/
theorem waitersRun_inv {w : Waiters} {ok : Nat → Bool} {errText : Nat → GoString} :
    ∀ {st st' : WaitersState} (acts : List WaitersAction), WaitersInv w ok errText st →
      waitersRun w ok errText st acts = some st' → WaitersInv w ok errText st'
  | _, _, [], hi, h => by cases h; exact hi
  | _, _, a :: acts, hi, h => by
    obtain ⟨st₁, h₁, h⟩ := Option.bind_eq_some.1 h
    exact waitersRun_inv acts (waitersStep_inv hi h₁) h

/-! ## Progress, and the state after `Wait` -/

/-- Until `Wait` returns, some statement can run: the caller's next one, the
next one of a goroutine that has not called `Done`, or `Wait` itself once
every goroutine has. -/
theorem WaitersInv.progress {w : Waiters} {ok : Nat → Bool} {errText : Nat → GoString}
    {st : WaitersState} (hi : WaitersInv w ok errText st) (hw : st.waited = false) :
    ∃ a, (waitersStep w ok errText st a).isSome := by
  cases hp : st.pending with
  | cons c rest => exact ⟨.call, by simp [waitersStep, hp]⟩
  | nil =>
    by_cases hall : ∀ g ∈ st.goroutines, g.2 = .done
    · have hlive : st.live = 0 := List.countP_eq_zero.2 fun g hg => by simp [hall g hg]
      have hc := hi.counter
      simp only [hp, hlive, List.count_nil, List.filterMap_nil, List.length_nil] at hc
      exact ⟨.wait, by simp [waitersStep, hp, hw]; omega⟩
    · push_neg at hall
      obtain ⟨⟨k, ph⟩, hg, hph⟩ := hall
      obtain ⟨i, hi'⟩ := List.getElem?_of_mem hg
      refine ⟨.step i, ?_⟩
      simp only [waitersStep, hi']
      cases ph <;> simp_all [WaitersState.advance]

/-- Once `Wait` has returned, every goroutine has called `Done`: `result`
is `true` exactly when every wait succeeded, the errors reported are those
of the failed waits, one each, and every interrupt has been sent. -/
theorem WaitersInv.after_wait {w : Waiters} {ok : Nat → Bool} {errText : Nat → GoString}
    {st : WaitersState} (hi : WaitersInv w ok errText st) (hw : st.waited = true) :
    st.result = (w.calls.filterMap WaiterCall.goStarter).all ok ∧
      st.errors.Perm (((w.calls.filterMap WaiterCall.goStarter).filter fun k => !ok k).map
        (w.errorMessage errText)) ∧
      st.sent = w.calls.filterMap WaiterCall.intrTarget := by
  obtain ⟨hp, hlive⟩ := hi.waited hw
  have hdone : ∀ g ∈ st.goroutines, g.2 = .done := by
    simpa [WaitersState.live] using List.countP_eq_zero.1 hlive
  have hstarted := hi.started
  have hsent := hi.sent
  simp only [hp, List.filterMap_nil, List.append_nil] at hstarted hsent
  rw [← hstarted]
  refine ⟨Bool.eq_iff_iff.2 (hi.result.trans ?_), List.perm_iff_count.2 fun e => ?_, hsent⟩
  · rw [List.countP_congr fun g hg => by rw [hdone g hg]]
    simp [WaiterPhase.wroteResult]
  · have h := hi.errors e
    simp only [List.count_eq_countP, Bool.beq_eq_decide_eq] at h ⊢
    rw [h, List.countP_congr fun g hg => by rw [hdone g hg]]
    simp [WaiterPhase.reported, List.countP_filter, List.countP_map, Function.comp_def, Bool.and_comm]

/-- A run of `w` from its start, in every interleaving, when its caller
adds one for each goroutine it starts: it takes at most the statements that
`w` stands for and `Wait`; until `Wait` returns some statement can run; and
once it has returned, `result` and the errors are those of the waits. -/
theorem waitersRun_init {w : Waiters} {ok : Nat → Bool} {errText : Nat → GoString}
    (hcount : w.calls.count .add = (w.calls.filterMap WaiterCall.goStarter).length)
    {acts : List WaitersAction} {st : WaitersState}
    (h : waitersRun w ok errText (WaitersState.init w) acts = some st) :
    acts.length ≤ (w.calls.map WaiterCall.weight).sum + 1 ∧
      (st.waited = false → ∃ a, (waitersStep w ok errText st a).isSome) ∧
      (st.waited = true → st.result = (w.calls.filterMap WaiterCall.goStarter).all ok ∧
        st.errors.Perm (((w.calls.filterMap WaiterCall.goStarter).filter fun k => !ok k).map
          (w.errorMessage errText)) ∧
        st.sent = w.calls.filterMap WaiterCall.intrTarget) := by
  have hi := waitersRun_inv acts (waitersInv_init ok errText hcount) h
  have hlen := waitersRun_length acts h
  simp only [WaitersState.stepsLeft, WaitersState.init, List.map_nil, List.sum_nil, if_false,
    Bool.false_eq_true] at hlen
  exact ⟨by omega, hi.progress, hi.after_wait⟩

/-! ## The two helpers -/

theorem startWaiters_succ (n : Nat) : startWaiters (n + 1) = startWaiters n ++ [.add, .go n] := by
  simp [startWaiters, List.range_succ]

/-- The loop adds one and starts one goroutine for each starter, in order,
and interrupts none. -/
theorem startWaiters_calls (n : Nat) :
    (startWaiters n).count .add = n ∧
      (startWaiters n).filterMap WaiterCall.goStarter = List.range n ∧
      (startWaiters n).filterMap WaiterCall.intrTarget = [] ∧
      ((startWaiters n).map WaiterCall.weight).sum = 6 * n := by
  induction n with
  | zero => exact ⟨rfl, rfl, rfl, rfl⟩
  | succ n ih =>
    obtain ⟨hadd, hgo, hintr, hweight⟩ := ih
    rw [startWaiters_succ]
    refine ⟨?_, ?_, ?_, ?_⟩
    · simp [hadd]
    · simp [hgo, List.range_succ, WaiterCall.goStarter]
    · simp [hintr, WaiterCall.intrTarget]
    · simp [hweight, WaiterCall.weight]
      omega

/-- `WaitUntilStarterReady` over `n` starters, in every interleaving of the
caller and its goroutines: a run takes at most `6 n + 1` statements; until
`Wait` returns some statement can run; and once it has returned, the result
is `true` exactly when every starter got ready in time, one error was
reported for each starter that did not, and no starter was interrupted. -/
theorem waitUntilStarterReady_run (n : Nat) (ok : Nat → Bool) (errText : Nat → GoString)
    (acts : List WaitersAction) (st : WaitersState)
    (h : waitersRun (waitUntilStarterReady n) ok errText (WaitersState.init (waitUntilStarterReady n)) acts =
      some st) :
    acts.length ≤ 6 * n + 1 ∧
      (st.waited = false → ∃ a, (waitersStep (waitUntilStarterReady n) ok errText st a).isSome) ∧
      (st.waited = true → st.result = (List.range n).all ok ∧
        st.errors.Perm (((List.range n).filter fun k => !ok k).map fun k =>
          ascii "Starter is not ready in time: " ++ errText k) ∧
        st.sent = []) := by
  obtain ⟨hadd, hgo, hintr, hweight⟩ := startWaiters_calls n
  have := waitersRun_init (by rw [waitUntilStarterReady, hadd, hgo, List.length_range]) h
  simpa only [waitUntilStarterReady, hgo, hintr, hweight, Waiters.errorMessage] using this

/-- Two starters, the first ready and the second not: after one of the
interleavings, `Wait` has returned `false`. -/
theorem waitUntilStarterReady_run_two :
    let acts : List WaitersAction :=
      [.call, .call, .call, .call, .step 0, .step 1, .step 1, .step 0, .step 1, .step 1, .wait]
    ∃ st, waitersRun (waitUntilStarterReady 2) (· == 0) (fun _ => ascii "timeout")
        (WaitersState.init (waitUntilStarterReady 2)) acts = some st ∧
      st.waited = true ∧ st.result = false := by
  intro acts
  exact ⟨_, rfl, rfl,
    ((waitUntilStarterReady_run 2 (· == 0) (fun _ => ascii "timeout") acts _ rfl).2.2 rfl).1⟩

/-- The interrupts of `SendIntrAndWait`: one for each starter, in order, and
no other statement. -/
theorem sendIntrs_calls (n : Nat) :
    ((List.range n).map WaiterCall.sendIntr).count .add = 0 ∧
      ((List.range n).map WaiterCall.sendIntr).filterMap WaiterCall.goStarter = [] ∧
      ((List.range n).map WaiterCall.sendIntr).filterMap WaiterCall.intrTarget = List.range n ∧
      (((List.range n).map WaiterCall.sendIntr).map WaiterCall.weight).sum = n := by
  refine ⟨List.count_eq_zero.2 (by simp), ?_, ?_, ?_⟩ <;>
    simp [List.filterMap_map, List.map_map, Function.comp_def, WaiterCall.goStarter,
      WaiterCall.intrTarget, WaiterCall.weight]

/-- `SendIntrAndWait` over `n` starters, in every interleaving of the caller
and its goroutines: a run takes at most `7 n + 1` statements; until `Wait`
returns some statement can run; and once it has returned, every starter has
been interrupted once, in order, the result is `true` exactly when every
starter stopped in time, and one error was reported for each starter that
did not. -/
theorem sendIntrAndWait_run (n : Nat) (ok : Nat → Bool) (errText : Nat → GoString)
    (acts : List WaitersAction) (st : WaitersState)
    (h : waitersRun (sendIntrAndWait n) ok errText (WaitersState.init (sendIntrAndWait n)) acts = some st) :
    acts.length ≤ 7 * n + 1 ∧
      (st.waited = false → ∃ a, (waitersStep (sendIntrAndWait n) ok errText st a).isSome) ∧
      (st.waited = true → st.sent = List.range n ∧ st.result = (List.range n).all ok ∧
        st.errors.Perm (((List.range n).filter fun k => !ok k).map fun k =>
          ascii "Starter is not stopped in time: " ++ errText k)) := by
  obtain ⟨hadd, hgo, hintr, hweight⟩ := startWaiters_calls n
  obtain ⟨hadd', hgo', hintr', hweight'⟩ := sendIntrs_calls n
  have := waitersRun_init (by simp [sendIntrAndWait, List.count_append, hadd, hgo, hadd', hgo']) h
  simp only [sendIntrAndWait, List.map_append, List.sum_append, List.filterMap_append, hgo, hgo', hintr,
    hintr', hweight, hweight', List.append_nil, List.nil_append, Waiters.errorMessage] at this
  exact ⟨by omega, this.2.1, fun hw => ⟨(this.2.2 hw).2.2, (this.2.2 hw).1, (this.2.2 hw).2.1⟩⟩

/-- Two starters that both stop in time: after one of the interleavings,
`Wait` has returned `true` and both starters were interrupted, in order. -/
theorem sendIntrAndWait_run_two :
    let acts : List WaitersAction :=
      [.call, .call, .call, .call, .call, .call, .step 0, .step 1, .step 0, .step 1, .wait]
    ∃ st, waitersRun (sendIntrAndWait 2) (fun _ => true) (fun _ => ascii "timeout")
        (WaitersState.init (sendIntrAndWait 2)) acts = some st ∧
      st.waited = true ∧ st.sent = [0, 1] ∧ st.result = true := by
  intro acts
  have h := (sendIntrAndWait_run 2 (fun _ => true) (fun _ => ascii "timeout") acts _ rfl).2.2 rfl
  exact ⟨_, rfl, rfl, h.1, h.2.1⟩

end ArangoStarter.Test
