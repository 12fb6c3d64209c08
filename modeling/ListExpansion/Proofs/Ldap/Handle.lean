/-
# ListExpansion.Proofs.Ldap.Handle -- the one handle, from the lock to its end

Calls on one directory overlap in any way that the lock lets them.  `Step` says all that one
move can do; `run?_induction` takes what every step keeps to whole runs.

`Orderly` is the invariant: one search at most is under way, none once the handle is gone, and
the handle is in one place at a time (`Orderly.handle`) -- behind the lock, with one disconnect,
or given up for good by the one unbind that was ever sent.

A call that nothing comes between is that of `LdapDirectory` (`search_undisturbed`,
`disconnect_undisturbed`).
-/
import ListExpansion.Ldap.Sharing
import Mathlib.Data.List.Induction

namespace ListExpansion.Ldap

set_option autoImplicit false

def Request.isUnbind : Request → Bool
  | .unbind _ => true
  | .search _ _ => false

def Progress.holdsHandle : Progress → Bool
  | .holding => true
  | _ => false

namespace Sharing

variable {first now next : Sharing} {moves : List Move} {move : Move} {caller : Nat}

/-- A search of `caller` is with the client. -/
def Searching (now : Sharing) (caller : Nat) : Prop :=
  ∃ search, now.calls[caller]? = some (.searching search)

theorem isLocked_eq_false_iff : now.isLocked = false ↔ ∀ caller, ¬ now.Searching caller := by
  rw [isLocked, List.any_eq_false]
  constructor
  · rintro free caller ⟨search, there⟩
    exact free _ (List.mem_of_getElem? there) rfl
  · intro free progress member holds
    obtain ⟨caller, there⟩ := List.mem_iff_getElem?.1 member
    cases progress with
    | searching search => exact free caller ⟨search, there⟩
    | _ => cases holds

/-! ## What a move can do -/

/-- All that a move can do. -/
inductive Step (now : Sharing) : Move → Sharing → Prop
  | call (call : Call) : Step now (.call call) { now with calls := now.calls ++ [.waiting call] }
  | search {caller : Nat} {search : Search}
      (there : now.calls[caller]? = some (.waiting (.search search)))
      (free : now.isLocked = false) (connected : now.directory.connected = true) :
      Step now (.enter caller)
        ((now.set caller (.searching search)).request (.search caller search))
  | refuse {caller : Nat} {search : Search}
      (there : now.calls[caller]? = some (.waiting (.search search)))
      (gone : now.directory.connected = false) :
      Step now (.enter caller) (now.set caller (.searched refusedReply))
  | take {caller : Nat} (there : now.calls[caller]? = some (.waiting .disconnect))
      (free : now.isLocked = false) (connected : now.directory.connected = true) :
      Step now (.enter caller)
        { now.set caller .holding with directory := { now.directory with connected := false } }
  | late {caller : Nat} (there : now.calls[caller]? = some (.waiting .disconnect))
      (gone : now.directory.connected = false) :
      Step now (.enter caller) (now.set caller (.disconnected (.ok ())))
  | unbind {caller : Nat} (there : now.calls[caller]? = some .holding) :
      Step now (.unbind caller) ((now.set caller .unbinding).request (.unbind caller))
  | searched {caller : Nat} {search : Search}
      (there : now.calls[caller]? = some (.searching search))
      (outcome : Except ClientFailure (List SortedEntry)) (memory : Memory) :
      Step now (.searchAnswered caller outcome memory)
        (now.set caller (.searched (searchReply memory outcome)))
  | unbound {caller : Nat} (there : now.calls[caller]? = some .unbinding)
      (outcome : Except ClientFailure Unit) :
      Step now (.unbindAnswered caller outcome)
        (now.set caller (.disconnected (unbindReply now.directory.host outcome).1))

theorem step_of_move? (moved : now.move? move = some next) : Step now move next := by
  cases move with
  | call call =>
      cases moved
      exact .call call
  | enter caller =>
      simp only [move?] at moved
      split at moved
      · next call there =>
          cases locked : now.isLocked <;> simp only [locked, if_true, Bool.false_eq_true, if_false,
            Option.some.injEq, reduceCtorEq] at moved
          subst moved
          cases connected : now.directory.connected with
          | true =>
              cases call with
              | search search =>
                  simpa only [entered, connected, if_true] using Step.search there locked connected
              | disconnect =>
                  simpa only [entered, connected, if_true] using Step.take there locked connected
          | false =>
              cases call with
              | search search =>
                  simpa only [entered, connected, Bool.false_eq_true, if_false] using
                    Step.refuse there connected
              | disconnect =>
                  simpa only [entered, connected, Bool.false_eq_true, if_false] using
                    Step.late there connected
      · cases moved
  | unbind caller =>
      simp only [move?] at moved
      split at moved
      · next there =>
          cases moved
          exact .unbind there
      · cases moved
  | searchAnswered caller outcome memory =>
      simp only [move?] at moved
      split at moved
      · next there =>
          cases moved
          exact .searched there outcome memory
      · cases moved
  | unbindAnswered caller outcome =>
      simp only [move?] at moved
      split at moved
      · next there =>
          cases moved
          exact .unbound there outcome
      · cases moved

theorem run?_append (early late : List Move) :
    now.run? (early ++ late) = (now.run? early).bind fun before => before.run? late :=
  List.foldlM_append

theorem run?_cons (first : Move) (late : List Move) :
    now.run? (first :: late) = (now.move? first).bind fun after => after.run? late :=
  List.foldlM_cons

theorem run?_concat (moves : List Move) (last : Move) :
    now.run? (moves ++ [last]) = (now.run? moves).bind fun before => before.move? last := by
  rw [run?_append]
  refine congrArg _ (funext fun before => ?_)
  rw [run?_cons]
  exact Option.bind_fun_some _

/-- A property of the start that every step keeps, with the moves made so far, holds of
every run. -/
theorem run?_induction {motive : List Move → Sharing → Prop}
    (start : motive [] first)
    (step : ∀ moves before move after, motive moves before → Step before move after →
      motive (moves ++ [move]) after) :
    first.run? moves = some now → motive moves now := by
  induction moves using List.reverseRecOn generalizing now with
  | nil =>
      rintro ⟨⟩
      exact start
  | append_singleton moves last ih =>
      intro ran
      obtain ⟨before, ranBefore, moved⟩ := Option.bind_eq_some_iff.1 (run?_concat moves last ▸ ran)
      exact step moves before last now (ih ranBefore) (step_of_move? moved)

/-- A run that passes a move: the states before and after it. -/
theorem run?_through {early late : List Move}
    (ran : first.run? (early ++ move :: late) = some now) :
    ∃ before after, first.run? early = some before ∧ before.move? move = some after ∧
      after.run? late = some now := by
  rw [run?_append] at ran
  obtain ⟨before, reached, ran⟩ := Option.bind_eq_some_iff.1 ran
  rw [run?_cons] at ran
  obtain ⟨after, moved, ran⟩ := Option.bind_eq_some_iff.1 ran
  exact ⟨before, after, reached, moved, ran⟩

/-- Where one call comes to another place, all others stay where they are. -/
theorem getElem?_set_of_ne (progress : Progress) {other : Nat} (ne : caller ≠ other) :
    (now.set caller progress).calls[other]? = now.calls[other]? :=
  List.getElem?_set_ne ne

theorem getElem?_set_self {old : Progress} (progress : Progress)
    (there : now.calls[caller]? = some old) :
    (now.set caller progress).calls[caller]? = some progress := by
  have inside : caller < now.calls.length := (List.getElem?_eq_some_iff.1 there).1
  exact List.getElem?_set_self inside

/-! ## One handle -/

/-- A search is under way after a step only if it was before, or the step begins it. -/
theorem searching_set {progress : Progress} {other : Nat}
    (after : (now.set caller progress).Searching other) :
    now.Searching other ∨ (other = caller ∧ progress.holdsLock = true) := by
  obtain ⟨search, there⟩ := after
  by_cases same : caller = other
  · subst same
    have inside : caller < now.calls.length := by
      simpa [set] using (List.getElem?_eq_some_iff.1 there).1
    have now_at : (now.set caller progress).calls[caller]? = some progress :=
      List.getElem?_set_self inside
    cases now_at.symm.trans there
    exact .inr ⟨rfl, rfl⟩
  · exact .inl ⟨search, getElem?_set_of_ne progress same ▸ there⟩

theorem searching_of_set {progress : Progress} {other : Nat} (idle : progress.holdsLock = false)
    (after : (now.set caller progress).Searching other) : now.Searching other :=
  (searching_set after).resolve_right fun ⟨_, holds⟩ => by rw [idle] at holds; cases holds

/-- How many calls have the handle to themselves, when one call comes to another place. -/
theorem countP_set {old : Progress} (progress : Progress)
    (there : now.calls[caller]? = some old) :
    (now.set caller progress).calls.countP Progress.holdsHandle + old.holdsHandle.toNat =
      now.calls.countP Progress.holdsHandle + progress.holdsHandle.toNat := by
  obtain ⟨inside, rfl⟩ := List.getElem?_eq_some_iff.1 there
  have counted : (now.calls.set caller progress).countP Progress.holdsHandle = _ :=
    List.countP_set inside
  have member : now.calls[caller].holdsHandle = true →
      0 < now.calls.countP Progress.holdsHandle := fun holds =>
    List.countP_pos_iff.2 ⟨_, List.getElem_mem inside, holds⟩
  simp only [set, counted]
  cases old : now.calls[caller].holdsHandle <;> cases progress.holdsHandle <;> grind

/-- One search at most is under way, none without the handle, and the handle is in one place:
behind the lock, with one disconnect, or given up by the one unbind. -/
structure Orderly (now : Sharing) : Prop where
  one : ∀ {one other}, now.Searching one → now.Searching other → one = other
  gone : now.directory.connected = false → ∀ caller, ¬ now.Searching caller
  handle : now.directory.connected.toNat + now.calls.countP Progress.holdsHandle +
    now.requests.countP Request.isUnbind = 1

theorem Orderly.start {directory : LdapDirectory} (there : directory.connected = true) :
    (start directory).Orderly where
  one := by
    rintro _ _ ⟨search, at_⟩
    cases at_
  gone := by
    rintro _ _ ⟨search, at_⟩
    cases at_
  handle := by simp [Sharing.start, there]

/-- A call comes to a place where it has neither the lock nor, if it had not, the handle. -/
theorem Orderly.set {old progress : Progress} (orderly : now.Orderly)
    (there : now.calls[caller]? = some old) (idle : progress.holdsLock = false)
    (same : progress.holdsHandle = old.holdsHandle) : (now.set caller progress).Orderly where
  one one other := orderly.one (searching_of_set idle one) (searching_of_set idle other)
  gone gone other searching := orderly.gone gone other (searching_of_set idle searching)
  handle := by
    have counted := countP_set progress there
    rw [same, Nat.add_right_cancel_iff] at counted
    rw [counted]
    exact orderly.handle

theorem Orderly.step (orderly : now.Orderly) (step : Step now move next) : next.Orderly := by
  cases step with
  | call call =>
      have earlier {other} (after : Sharing.Searching
          { now with calls := now.calls ++ [.waiting call] } other) : now.Searching other := by
        obtain ⟨search, there⟩ := after
        rw [List.getElem?_append] at there
        split at there
        · exact ⟨search, there⟩
        · simpa using List.mem_of_getElem? there
      exact {
        one := fun one other => orderly.one (earlier one) (earlier other)
        gone := fun gone caller searching => orderly.gone gone caller (earlier searching)
        handle := by simpa [Progress.holdsHandle] using orderly.handle }
  | @search caller search there free connected =>
      have nobody := isLocked_eq_false_iff.1 free
      have only {other} (after : (now.set caller (.searching search)).Searching other) :
          other = caller := ((searching_set after).resolve_left (nobody other)).1
      exact {
        one := fun one other => (only one).trans (only other).symm
        gone := fun gone => by cases connected.symm.trans gone
        handle := by
          have held : (now.set caller (.searching search)).calls.countP Progress.holdsHandle =
            now.calls.countP Progress.holdsHandle := countP_set (.searching search) there
          have sent : (now.requests ++ [Request.search caller search]).countP Request.isUnbind =
            now.requests.countP Request.isUnbind := by simp [Request.isUnbind]
          exact (congrArg₂ (now.directory.connected.toNat + · + ·) held sent).trans orderly.handle }
  | refuse there gone => exact orderly.set there rfl rfl
  | @take caller there free connected =>
      have nobody other (after : (now.set caller .holding).Searching other) : False :=
        isLocked_eq_false_iff.1 free other (searching_of_set rfl after)
      exact {
        one := fun one => (nobody _ one).elim
        gone := fun _ => nobody
        -- The handle goes from behind the lock to this disconnect.
        handle := by
          have held : (now.set caller .holding).calls.countP Progress.holdsHandle =
            now.calls.countP Progress.holdsHandle + 1 := countP_set .holding there
          have handle := orderly.handle
          rw [connected, Bool.toNat_true] at handle
          show 0 + (now.set caller .holding).calls.countP Progress.holdsHandle +
            now.requests.countP Request.isUnbind = 1
          omega }
  | late there gone => exact orderly.set there rfl rfl
  | @unbind caller there =>
      exact {
        one := fun one other => orderly.one (searching_of_set rfl one) (searching_of_set rfl other)
        gone := fun gone other searching => orderly.gone gone other (searching_of_set rfl searching)
        -- The handle goes from this disconnect to the client.
        handle := by
          have held : (now.set caller .unbinding).calls.countP Progress.holdsHandle + 1 =
            now.calls.countP Progress.holdsHandle := countP_set .unbinding there
          have sent : (now.requests ++ [Request.unbind caller]).countP Request.isUnbind =
            now.requests.countP Request.isUnbind + 1 := by simp [Request.isUnbind]
          have handle := orderly.handle
          show now.directory.connected.toNat +
            (now.set caller .unbinding).calls.countP Progress.holdsHandle +
            (now.requests ++ [Request.unbind caller]).countP Request.isUnbind = 1
          omega }
  | searched there outcome memory => exact orderly.set there rfl rfl
  | unbound there outcome => exact orderly.set there rfl rfl

theorem Orderly.run {directory : LdapDirectory}
    (there : directory.connected = true) (ran : (Sharing.start directory).run? moves = some now) :
    now.Orderly :=
  run?_induction (Orderly.start there) (fun _ _ _ _ before step => Orderly.step before step) ran

/-- A handle that is with one disconnect, or was given up, is behind the lock no more. -/
theorem Orderly.connected_of_held (orderly : now.Orderly)
    (held : now.calls[caller]? = some .holding) : now.directory.connected = false := by
  have counted : 0 < now.calls.countP Progress.holdsHandle :=
    List.countP_pos_iff.2 ⟨_, List.mem_of_getElem? held, rfl⟩
  have handle := orderly.handle
  cases connected : now.directory.connected with
  | false => rfl
  | true =>
      rw [connected, Bool.toNat_true] at handle
      omega

theorem enter_waiting (step : Step now (.enter caller) next) :
    ∃ call, now.calls[caller]? = some (.waiting call) := by
  cases step with
  | search there free connected => exact ⟨_, there⟩
  | refuse there gone => exact ⟨_, there⟩
  | take there free connected => exact ⟨_, there⟩
  | late there gone => exact ⟨_, there⟩

/-- A disconnect that gets the lock leaves no handle there. -/
theorem enter_disconnect (there : now.calls[caller]? = some (.waiting .disconnect))
    (step : Step now (.enter caller) next) : next.directory.connected = false := by
  cases step with
  | search other free connected => cases there.symm.trans other
  | refuse other gone => cases there.symm.trans other
  | take other free connected => rfl
  | late other gone => exact gone

/-- A step that sends an unbind is that of the disconnect with the handle. -/
theorem Step.held_of_unbind (step : Step now move next)
    (sent : Request.unbind caller ∈ next.requests) (fresh : Request.unbind caller ∉ now.requests) :
    now.calls[caller]? = some .holding := by
  cases step with
  | search there free connected =>
      rcases List.mem_append.1 sent with earlier | added
      · exact absurd earlier fresh
      · cases List.mem_singleton.1 added
  | unbind there =>
      rcases List.mem_append.1 sent with earlier | added
      · exact absurd earlier fresh
      · cases List.mem_singleton.1 added
        exact there
  | _ => exact absurd sent fresh

/-- A handle that is gone does not come back. -/
theorem gone_step (gone : now.directory.connected = false) (step : Step now move next) :
    next.directory.connected = false := by
  cases step with
  | take there free connected => rfl
  | _ => exact gone

theorem gone_run (gone : first.directory.connected = false) (ran : first.run? moves = some now) :
    now.directory.connected = false :=
  run?_induction (motive := fun _ now => now.directory.connected = false) gone
    (fun _ _ _ _ gone step => gone_step gone step) ran

/-! ## Calls that nothing comes between -/

variable {κ : Type}

theorem isLocked_begin (call : Call) :
    isLocked { now with calls := now.calls ++ [.waiting call] } = now.isLocked := by
  simp [isLocked, Progress.holdsLock]

/-- A search that nothing comes between is that of the directory. -/
theorem search_undisturbed (client : Client κ) (search : Search) (server : κ)
    (free : now.isLocked = false) (connected : now.directory.connected = true) :
    now.run? [.call (.search search), .enter now.calls.length,
        .searchAnswered now.calls.length (client.search search server).1
          (client.memory (client.search search server).2)] =
      some { now with
        calls := now.calls ++ [.searched (now.directory.search client search server).1]
        requests := now.requests ++ [.search now.calls.length search] } := by
  simp [run?, move?, isLocked_begin, free, entered, connected, request, set, LdapDirectory.search]

/-- So is one that finds no handle. -/
theorem search_undisturbed_of_gone (client : Client κ) (search : Search) (server : κ)
    (free : now.isLocked = false) (gone : now.directory.connected = false) :
    now.run? [.call (.search search), .enter now.calls.length] =
      some { now with
        calls := now.calls ++ [.searched (now.directory.search client search server).1] } := by
  simp [run?, move?, isLocked_begin, free, entered, gone, set, LdapDirectory.search]

/-- And a disconnect is that of the directory. -/
theorem disconnect_undisturbed (client : Client κ) (server : κ) (free : now.isLocked = false)
    (connected : now.directory.connected = true) :
    now.run? [.call .disconnect, .enter now.calls.length, .unbind now.calls.length,
        .unbindAnswered now.calls.length (client.unbind server).1] =
      some { now with
        directory := (now.directory.disconnect client server).2.1
        calls := now.calls ++ [.disconnected (now.directory.disconnect client server).1]
        requests := now.requests ++ [.unbind now.calls.length] } := by
  simp [run?, move?, isLocked_begin, free, entered, connected, request, set,
    LdapDirectory.disconnect]

end Sharing

end ListExpansion.Ldap
