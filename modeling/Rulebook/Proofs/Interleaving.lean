/-
**Requests that change the rules, interleaved.**

A request that stores or removes a rule takes several steps: it changes the store, it counts the rules,
and it sets the gauge to the count.  Requests that are answered at the same time take their steps in any
order, so the count that is set last need not be the one that was taken last.  What the gauge tells in
the end is how many rules there were when the request that set it last counted them; nothing is stored
or removed after it was set.  So it is right exactly if there were as many rules when that request
counted them as when it set the gauge.

Main definitions:

* `Rulebook.lastRuleCount?` — what the gauge was set to last;
* `Rulebook.Service.Task`, `Rulebook.Service.Task.step` — such a request and its steps;
* `Rulebook.Service.Work`, `Rulebook.Service.Work.run` — several of them in one session, and an
  interleaving of their steps.

Main results:

* `Rulebook.lookup_readings_rulesStored` — the gauge is what it was set to last;
* `Rulebook.Service.snd_run_create`, `Rulebook.Service.snd_run_delete` — the operations of the service
  take these steps;
* `Rulebook.Service.Work.step_advance` — what one step does;
* `Rulebook.Service.Work.store_run_eq` — nothing is stored or removed after the gauge was set last;
* `Rulebook.Service.Work.run_overtaken` — two requests may leave the gauge one short;
* `Rulebook.Service.Work.gauge_tells_what_was_counted` — **what the gauge is left at**.
-/

import Mathlib.Data.List.Induction
import Rulebook.Metrics.Exposition
import Rulebook.Proofs.Ledger

set_option autoImplicit false

namespace Rulebook

/-! ### The gauge -/

/-- What a measurement sets the gauge of stored rules to. -/
def Measurement.ruleCount? : Measurement → Option Nat
  | ruleCount n => some n
  | _ => none

/-- What the gauge of stored rules was set to last. -/
def lastRuleCount? (log : List Measurement) : Option Nat :=
  (log.filterMap Measurement.ruleCount?).getLast?

theorem lastRuleCount?_append_singleton (log : List Measurement) (m : Measurement) :
    lastRuleCount? (log ++ [m]) = m.ruleCount?.or (lastRuleCount? log) := by
  rw [lastRuleCount?, List.filterMap_append, List.getLast?_append, lastRuleCount?]
  cases m <;> rfl

theorem lookup_applyChange (series other : Series) (change : Change)
    (seen : List (Series × Reading)) :
    (applyChange series change seen).lookup other =
      if other = series then
        some (((seen.lookup series).map fun r => r.next change).getD (.first change))
      else seen.lookup other := by
  induction seen with
  | nil =>
      by_cases h : other = series
      · simp [applyChange, h]
      · simp [applyChange, h]
  | cons first rest ih =>
      obtain ⟨s, r⟩ := first
      by_cases hs : s = series
      · subst hs
        by_cases h : other = s
        · simp [applyChange, h]
        · have hother : (other == s) = false := by simpa using h
          simp [applyChange, List.lookup_cons, h, hother]
      · have hseries : (series == s) = false := by simpa using fun h => hs h.symm
        rw [applyChange, if_neg hs, List.lookup_cons, List.lookup_cons, List.lookup_cons, hseries, ih]
        by_cases h : other = series
        · simp [h, hseries]
        · simp [h]

/-- Changes of other series leave a reading as it is. -/
theorem lookup_foldl_applyChange {series : Series} {changes : List (Series × Change)}
    (h : ∀ c ∈ changes, series ≠ c.1) (seen : List (Series × Reading)) :
    (changes.foldl (fun seen c => applyChange c.1 c.2 seen) seen).lookup series =
      seen.lookup series := by
  induction changes generalizing seen with
  | nil => rfl
  | cons c rest ih =>
      obtain ⟨hc, hrest⟩ := List.forall_mem_cons.1 h
      rw [List.foldl_cons, ih hrest, lookup_applyChange, if_neg hc]

theorem rulesStored_ne_of_mem_changes {m : Measurement} (h : m.ruleCount? = none) :
    ∀ c ∈ m.changes, Series.rulesStored ≠ c.1 := by
  cases m with
  | ruleCount n => cases h
  | _ =>
      simp [Measurement.changes, Series.rulesStored, Series.serviceStarts, Series.requests,
        Series.requestSeconds, Series.parses, Series.evaluations, Series.evaluationSeconds]

/-- The gauge is what it was set to last. -/
theorem lookup_readings_rulesStored (log : List Measurement) :
    (readings log).lookup .rulesStored =
      (lastRuleCount? log).map fun n => .gauge (Float.ofNat n) := by
  induction log using List.reverseRecOn with
  | nil => rfl
  | append_singleton log m ih =>
      have hreadings : readings (log ++ [m]) =
          m.changes.foldl (fun seen c => applyChange c.1 c.2 seen) (readings log) := by
        rw [readings, List.flatMap_append, List.foldl_append, List.flatMap_singleton, readings]
      rw [hreadings, lastRuleCount?_append_singleton]
      cases hm : m.ruleCount? with
      | none => rw [lookup_foldl_applyChange (rulesStored_ne_of_mem_changes hm), ih, Option.none_or]
      | some n =>
          obtain rfl : m = .ruleCount n := by
            cases m with
            | ruleCount n' => exact congrArg _ (Option.some.inj hm)
            | _ => cases hm
          rw [Measurement.changes, List.foldl_cons, List.foldl_nil, lookup_applyChange, if_pos rfl, ih]
          cases lastRuleCount? log <;> rfl

/-- A rule under a new identifier is one more. -/
theorem Store.size_insert {s : Store} {r : StoredRule} (h : s.get? r.id = none) :
    (s.insert r).size = s.size + 1 := by
  have hwithout : Store.without s.rules r.id = s.rules := by
    refine List.filter_eq_self.2 fun other hother => ?_
    simpa using List.find?_eq_none.1 h other hother
  show (r :: Store.without s.rules r.id).length = _
  rw [hwithout, List.length_cons, Store.size]

namespace Service

/-! ### Tasks -/

/-- Where a request stands that stores or removes a rule. -/
inductive Task where
  /-- A rule is yet to be stored. -/
  | storing (rule : StoredRule)
  /-- The rule under an identifier, if there is one, is yet to be removed. -/
  | removing (id : Uuid)
  /-- The rules were changed and are yet to be counted. -/
  | counting
  /-- The gauge is yet to be set to what was counted. -/
  | setting (n : Nat)
  /-- There is nothing left to do. -/
  | done

namespace Task

/-- The next step of a task: the task after it, and the session. -/
def step (s : Session) : Task → Task × Session
  | storing rule => (counting, { s with store := s.store.insert rule })
  | removing id =>
    match s.store.get? id with
    | none => (done, s)
    | some _ => (counting, { s with store := s.store.erase id })
  | counting => (setting s.store.size, s)
  | setting n => (done, { s with log := s.log ++ [.ruleCount n] })
  | done => (done, s)

/-- The request has not been begun. -/
def IsNew : Task → Prop
  | storing _ => True
  | removing _ => True
  | _ => False

/-- The rules were changed and the gauge is yet to be set. -/
def IsPending : Task → Prop
  | counting => True
  | setting _ => True
  | _ => False

end Task

/-- Requests that are answered in one session, at the same time. -/
structure Work where
  tasks : List Task
  session : Session

namespace Work

/-- The next step of one of the requests; nothing, if there is no such request. -/
def advance (w : Work) (i : Nat) : Work :=
  match w.tasks[i]? with
  | none => w
  | some t => ⟨w.tasks.set i (t.step w.session).1, (t.step w.session).2⟩

/-- An interleaving: steps of the requests in the order given. -/
def run (w : Work) (order : List Nat) : Work := order.foldl advance w

/-- Every request was answered. -/
def Finished (w : Work) : Prop := ∀ t ∈ w.tasks, t = .done

theorem run_cons (w : Work) (i : Nat) (order : List Nat) :
    w.run (i :: order) = (w.advance i).run order := rfl

theorem run_append (w : Work) (order order' : List Nat) :
    w.run (order ++ order') = (w.run order).run order' := List.foldl_append

theorem run_append_singleton (w : Work) (order : List Nat) (i : Nat) :
    w.run (order ++ [i]) = (w.run order).advance i := run_append w order [i]

end Work

/-! ### The operations of the service -/

section Operations

variable (policy : Policy) (s : Session)

/-- A rule that was read is stored, counted and told in the steps of a task. -/
theorem snd_run_create (occasion : Occasion) {request : CreateRequest} (hfaults : request.faults = [])
    {e : Expr} (hparse : parse request.text = .ok e) :
    ((create (.inMemory policy) occasion request).run s).2 =
      (Work.run ⟨[.storing ⟨occasion.ruleId, request.text, e, occasion.time⟩],
        { s with log := s.log ++ [.parse true] }⟩ [0, 0, 0]).session := by
  rw [create, keepLimits, if_pos hfaults, pure_bind, readRule, hparse]
  rfl

/-- A rule is removed, and the others counted and told, in the steps of a task. -/
theorem snd_run_delete (id : Uuid) :
    ((delete (.inMemory policy) id).run s).2 =
      (Work.run ⟨[.removing id], s⟩ [0, 0, 0]).session := by
  have hreach : reachStore (.inMemory policy) .delete = pure () := rfl
  have hfirst : Work.advance ⟨[.removing id], s⟩ 0 =
      ⟨[(Task.step s (.removing id)).1], (Task.step s (.removing id)).2⟩ := rfl
  rw [Work.run_cons, hfirst, Task.step]
  cases h : s.store.get? id with
  | none =>
      rw [run_delete_none policy s h]
      rfl
  | some rule =>
      rw [delete, hreach, pure_bind, run_bind, run_get]
      simp only [h]
      rfl

end Operations

/-! ### Steps -/

namespace Work

/-- What one step does: a request changes the rules, or finds none to remove; it counts the rules; it
sets the gauge; or it has nothing left to do. -/
inductive Step (w : Work) (i : Nat) : Work → Prop
  | changed {t : Task} (task : w.tasks[i]? = some t) (isNew : t.IsNew) (store : Store) :
      Step w i ⟨w.tasks.set i .counting, { w.session with store := store }⟩
  | missed {t : Task} (task : w.tasks[i]? = some t) (isNew : t.IsNew) :
      Step w i ⟨w.tasks.set i .done, w.session⟩
  | counted (task : w.tasks[i]? = some .counting) :
      Step w i ⟨w.tasks.set i (.setting w.session.store.size), w.session⟩
  | told {n : Nat} (task : w.tasks[i]? = some (.setting n)) :
      Step w i ⟨w.tasks.set i .done, { w.session with log := w.session.log ++ [.ruleCount n] }⟩
  | idle (task : ∀ t, w.tasks[i]? = some t → t = .done) : Step w i w

/-- **What one step does.** -/
theorem step_advance (w : Work) (i : Nat) : Step w i (w.advance i) := by
  rw [advance]
  cases htask : w.tasks[i]? with
  | none => exact .idle fun t ht => nomatch htask.symm.trans ht
  | some t =>
      cases t with
      | storing rule => exact .changed htask trivial _
      | removing id =>
          simp only [Task.step]
          cases w.session.store.get? id with
          | none => exact .missed htask trivial
          | some rule => exact .changed htask trivial _
      | counting => exact .counted htask
      | setting n => exact .told htask
      | done =>
          have hset : w.tasks.set i .done = w.tasks := by
            obtain ⟨hi, hdone⟩ := List.getElem?_eq_some_iff.1 htask
            rw [← hdone, List.set_getElem_self]
          simp only [Task.step, hset]
          exact .idle fun t ht => (Option.some.inj (htask.symm.trans ht)).symm

variable {w w' : Work} {i j : Nat}

/-- A step of one request leaves the others where they are. -/
theorem Step.task?_ne (h : Step w i w') (hne : i ≠ j) : w'.tasks[j]? = w.tasks[j]? := by
  cases h with
  | idle => rfl
  | _ => exact List.getElem?_set_ne hne

theorem Step.log_grows (h : Step w i w') : w.session.log <+: w'.session.log := by
  cases h with
  | told => exact List.prefix_append _ _
  | _ => exact List.prefix_refl _

theorem log_grows_run (w : Work) (order : List Nat) :
    w.session.log <+: (w.run order).session.log := by
  induction order generalizing w with
  | nil => exact List.prefix_refl _
  | cons i rest ih => exact (w.step_advance i).log_grows.trans (ih _)

theorem task?_set_self {t : Task} (htask : w.tasks[i]? = some t) (t' : Task) :
    (w.tasks.set i t')[i]? = some t' :=
  List.getElem?_set_self (List.getElem?_eq_some_iff.1 htask).1

/-- Who changed the rules is not done before setting the gauge. -/
theorem log_length_lt_of_isPending {t : Task} (htask : w.tasks[i]? = some t)
    (hpending : t.IsPending) {order : List Nat} (hfinished : (w.run order).Finished) :
    w.session.log.length < (w.run order).session.log.length := by
  induction order generalizing w t with
  | nil =>
      obtain rfl : t = .done := hfinished t (List.mem_of_getElem? htask)
      exact hpending.elim
  | cons k rest ih =>
      have hstep := w.step_advance k
      rw [run_cons] at hfinished ⊢
      generalize w.advance k = w' at hstep hfinished ⊢
      by_cases hk : k = i
      · subst hk
        cases hstep with
        | changed task isNew =>
            obtain rfl := Option.some.inj (htask.symm.trans task)
            cases t <;> trivial
        | missed task isNew =>
            obtain rfl := Option.some.inj (htask.symm.trans task)
            cases t <;> trivial
        | counted task => exact ih (t := .setting _) (task?_set_self task _) trivial hfinished
        | told task =>
            refine Nat.lt_of_lt_of_le ?_ (log_grows_run _ rest).length_le
            simp
        | idle task =>
            obtain rfl := task t htask
            exact hpending.elim
      · rw [← hstep.task?_ne hk] at htask
        exact Nat.lt_of_le_of_lt hstep.log_grows.length_le (ih htask hpending hfinished)

/-- **Nothing is stored or removed once the gauge was set for the last time**, since whoever changed the
rules would have set it again. -/
theorem store_run_eq {order : List Nat} (hfinished : (w.run order).Finished)
    (hlog : (w.run order).session.log.length ≤ w.session.log.length) :
    (w.run order).session.store = w.session.store := by
  induction order generalizing w with
  | nil => rfl
  | cons k rest ih =>
      have hstep := w.step_advance k
      rw [run_cons] at hfinished hlog ⊢
      generalize w.advance k = w' at hstep hfinished hlog ⊢
      cases hstep with
      | changed task isNew store =>
          have hlt := log_length_lt_of_isPending (t := .counting) (task?_set_self task _) trivial
            hfinished
          exact absurd hlog (Nat.not_le_of_lt hlt)
      | missed => exact ih hfinished hlog
      | counted => exact ih hfinished hlog
      | told =>
          have hle := Nat.le_trans (log_grows_run _ rest).length_le hlog
          rw [List.length_append, List.length_singleton] at hle
          exact absurd hle (Nat.not_succ_le_self _)
      | idle => exact ih hfinished hlog

/-! ### Reading and setting -/

/-- Whoever is about to set the gauge has counted the rules before. -/
theorem exists_counting (hnew : ∀ t ∈ w.tasks, t.IsNew) {order : List Nat} {n : Nat}
    (htask : (w.run order).tasks[i]? = some (.setting n)) :
    ∃ before between, order = before ++ i :: between ∧
      (w.run before).tasks[i]? = some .counting ∧ n = (w.run before).session.store.size := by
  induction order using List.reverseRecOn with
  | nil => exact (hnew _ (List.mem_of_getElem? htask)).elim
  | append_singleton order k ih =>
      have hstep := (w.run order).step_advance k
      rw [run_append_singleton] at htask
      generalize hw' : (w.run order).advance k = w' at hstep htask
      by_cases hk : k = i
      · subst hk
        cases hstep with
        | counted task =>
            have hn := (task?_set_self task _).symm.trans htask
            simp only [Option.some.injEq, Task.setting.injEq] at hn
            exact ⟨order, [], rfl, task, hn.symm⟩
        | changed task => exact nomatch (task?_set_self task _).symm.trans htask
        | missed task => exact nomatch (task?_set_self task _).symm.trans htask
        | told task => exact nomatch (task?_set_self task _).symm.trans htask
        | idle task => exact nomatch task _ htask
      · rw [hstep.task?_ne hk] at htask
        obtain ⟨before, between, rfl, hcounting, hn⟩ := ih htask
        exact ⟨before, between ++ [k], by simp, hcounting, hn⟩

/-- If the gauge was set, someone set it last. -/
theorem exists_setting {order : List Nat} (hlog : (w.run order).session.log ≠ w.session.log) :
    ∃ before i after n, order = before ++ i :: after ∧
      (w.run before).tasks[i]? = some (.setting n) ∧
      (w.run order).session.log = (w.run before).session.log ++ [.ruleCount n] := by
  induction order using List.reverseRecOn with
  | nil => exact absurd rfl hlog
  | append_singleton order k ih =>
      have hstep := (w.run order).step_advance k
      rw [run_append_singleton] at hlog ⊢
      generalize (w.run order).advance k = w' at hstep hlog ⊢
      have hbefore (hsame : w'.session.log = (w.run order).session.log) :
          ∃ before i after n, order ++ [k] = before ++ i :: after ∧
            (w.run before).tasks[i]? = some (.setting n) ∧
            w'.session.log = (w.run before).session.log ++ [.ruleCount n] := by
        rw [hsame] at hlog ⊢
        obtain ⟨before, i, after, n, rfl, htask, hlast⟩ := ih hlog
        exact ⟨before, i, after ++ [k], n, by simp, htask, hlast⟩
      cases hstep with
      | told task => exact ⟨order, k, [], _, rfl, task, rfl⟩
      | _ => exact hbefore rfl

theorem session_advance_of_counting (h : w.tasks[i]? = some .counting) :
    (w.advance i).session = w.session := by rw [advance, h]; rfl

theorem session_advance_of_setting {n : Nat} (h : w.tasks[i]? = some (.setting n)) :
    (w.advance i).session = { w.session with log := w.session.log ++ [.ruleCount n] } := by
  rw [advance, h]
  rfl

/-! ### What the gauge is left at -/

/-- Two rules are stored while the first request is between counting and setting the gauge. -/
def overtaken : List Nat := [0, 0, 1, 1, 1, 0]

/-- Of two requests that store new rules, one may leave the gauge at what it counted before the other
one stored its rule. -/
theorem run_overtaken (s : Session) {r r' : StoredRule} (hne : r'.id ≠ r.id)
    (hfree : s.store.get? r.id = none) (hfree' : s.store.get? r'.id = none) :
    let last := run ⟨[.storing r, .storing r'], s⟩ overtaken
    last.Finished ∧ lastRuleCount? last.session.log = some (s.store.size + 1) ∧
      last.session.store.size = s.store.size + 2 := by
  intro last
  have hlast : last = ⟨[.done, .done], (s.store.insert r).insert r',
      s.log ++ [.ruleCount ((s.store.insert r).insert r').size] ++
        [.ruleCount (s.store.insert r).size]⟩ := rfl
  have hsize : (s.store.insert r).size = s.store.size + 1 := Store.size_insert hfree
  have hsize' : ((s.store.insert r).insert r').size = s.store.size + 2 := by
    rw [Store.size_insert, hsize]
    rw [Store.get?_insert, if_neg hne, hfree']
  rw [hlast]
  refine ⟨?_, ?_, hsize'⟩
  · simp [Finished]
  · rw [lastRuleCount?_append_singleton, hsize]
    rfl

/-- **What the gauge is left at.**  Take any requests that store or remove rules, and any interleaving of
their steps by which all of them are answered and at least one sets the gauge.  Then one of them counts
the rules and later sets the gauge for the last time; nothing is stored or removed from then on, and the
gauge tells what was counted.  So it tells how many rules there are exactly if there were as many when
they were counted as when the gauge was set, such as where the same request takes both steps without
another in between. -/
theorem gauge_tells_what_was_counted (w : Work) (order : List Nat) (hnew : ∀ t ∈ w.tasks, t.IsNew)
    (hfinished : (w.run order).Finished) (hset : (w.run order).session.log ≠ w.session.log) :
    ∃ before i between after, order = before ++ i :: (between ++ i :: after) ∧
      let counted := w.run before
      let told := w.run (before ++ i :: between)
      let last := w.run order
      counted.tasks[i]? = some .counting ∧
      told.tasks[i]? = some (.setting counted.session.store.size) ∧
      lastRuleCount? last.session.log = some counted.session.store.size ∧
      last.session.store = told.session.store ∧
      (lastRuleCount? last.session.log = some last.session.store.size ↔
        counted.session.store.size = told.session.store.size) ∧
      (between = [] → lastRuleCount? last.session.log = some last.session.store.size) := by
  obtain ⟨upTo, i, after, n, horder, hsetting, hlog⟩ := exists_setting hset
  obtain ⟨before, between, rfl, hcounting, rfl⟩ := exists_counting hnew hsetting
  have hrun : w.run order = ((w.run (before ++ i :: between)).advance i).run after := by
    rw [horder, run_append, run_cons]
  have hlast : lastRuleCount? (w.run order).session.log =
      some (w.run before).session.store.size := by
    rw [hlog, lastRuleCount?_append_singleton]
    rfl
  have hadvance := session_advance_of_setting hsetting
  have hstore : (w.run order).session.store = (w.run (before ++ i :: between)).session.store := by
    rw [hrun] at hfinished hlog ⊢
    have hquiet := congrArg Session.log hadvance
    rw [store_run_eq hfinished (hlog.trans hquiet.symm ▸ Nat.le_refl _), hadvance]
  have hright : lastRuleCount? (w.run order).session.log = some (w.run order).session.store.size ↔
      (w.run before).session.store.size =
        (w.run (before ++ i :: between)).session.store.size := by
    rw [hlast, hstore, Option.some.injEq]
  refine ⟨before, i, between, after, by rw [horder, List.append_assoc, List.cons_append], hcounting,
    hsetting, hlast, hstore, hright, fun hbetween => hright.2 ?_⟩
  rw [hbetween, run_append_singleton, session_advance_of_counting hcounting]

/-- The rule with a number as its identifier. -/
def numbered (n : Nat) : StoredRule := ⟨⟨n⟩, "a > 1", .comparison .gt (.reference "a" none)
  (.literal (.number 1)), ⟨n⟩⟩

/-- Two rules are stored, one is counted: the count changed before the gauge was set to it. -/
theorem overtaken_count_is_told :
    let w : Work := ⟨[.storing (numbered 1), .storing (numbered 2)], .fresh⟩
    let last := w.run overtaken
    last.Finished ∧ lastRuleCount? last.session.log = some 1 ∧ last.session.store.size = 2 ∧
      ∃ before i between after, overtaken = before ++ i :: (between ++ i :: after) ∧
        (w.run before).session.store.size = 1 ∧
        (w.run (before ++ i :: between)).session.store.size = 2 := by
  intro w last
  have hfinished : last.Finished := by
    rw [Finished, show last.tasks = [.done, .done] from rfl]
    simp
  have hnew : ∀ t ∈ w.tasks, t.IsNew := by
    simp [w, Task.IsNew]
  have hset : last.session.log ≠ w.session.log := by
    rw [show w.session.log = [] from rfl]
    exact List.cons_ne_nil _ _
  obtain ⟨before, i, between, after, horder, -, -, hlast, hstore, -⟩ :=
    gauge_tells_what_was_counted w overtaken hnew hfinished hset
  have hone : lastRuleCount? last.session.log = some 1 := rfl
  have htwo : last.session.store.size = 2 := by decide
  refine ⟨hfinished, hone, htwo, before, i, between, after, horder, ?_, hstore ▸ htwo⟩
  exact (Option.some.inj (hone.symm.trans hlast)).symm

/-- Not every interleaving leaves the gauge at the number of rules. -/
theorem gauge_may_be_left_stale :
    ¬∀ (w : Work) (order : List Nat), (∀ t ∈ w.tasks, t.IsNew) → (w.run order).Finished →
      (w.run order).session.log ≠ w.session.log →
        lastRuleCount? (w.run order).session.log = some (w.run order).session.store.size := by
  intro h
  have hne : (numbered 2).id ≠ (numbered 1).id := by decide
  obtain ⟨hfinished, hgauge, hsize⟩ := run_overtaken .fresh hne rfl rfl
  have hright := h ⟨[.storing (numbered 1), .storing (numbered 2)], .fresh⟩ overtaken
    (by simp [Task.IsNew]) hfinished (List.cons_ne_nil _ _)
  rw [hgauge, hsize] at hright
  exact absurd hright (by decide)

end Work

end Service

end Rulebook
