/-
# Sessions.IdempotentSubmissions -- one key, one row, one creator

All calls of a world are one tenant's, with one key.  The invariant counts: the
rows that hold the key are as many as the calls that inserted one, and they are
at most one.  An INSERT that is refused has therefore lost to a committed row, and
that row is the tenant's, so the SELECT after the rollback finds it.

Nothing waits for ever either: only a call that has a commit ahead of it owns an
uncommitted row (`enabled_of_unfinished`), and each call takes at most four
statements.
-/
import Mathlib.Data.Fintype.EquivFin
import Lcp.Sessions.Submitters

namespace Lcp.Submitters

open Theory TaskService

set_option autoImplicit false

/-! ## Counting over sessions -/

section Lists

variable {α : Type} {l : List α} {i : Nat} {x : α}

/-- The sum of a measure over a list. -/
def total (f : α → Nat) : List α → Nat
  | [] => 0
  | x :: rest => f x + total f rest

theorem total_set (f : α → Nat) (y : α) (here : l[i]? = some x) :
    total f (l.set i y) + f x = total f l + f y := by
  induction l generalizing i with
  | nil => simp at here
  | cons head rest ih =>
      cases i with
      | zero =>
          obtain rfl : head = x := by simpa using here
          simp only [List.set_cons_zero, total]
          omega
      | succ i =>
          have tail := ih (i := i) (by simpa using here)
          simp only [List.set_cons_succ, total]
          omega

theorem total_const {f : α → Nat} {c : Nat} (const : ∀ x ∈ l, f x = c) :
    total f l = c * l.length := by
  induction l with
  | nil => rfl
  | cons head rest ih =>
      rw [total, const head List.mem_cons_self,
        ih fun x member => const x (List.mem_cons_of_mem _ member), List.length_cons,
        Nat.mul_succ]
      omega

theorem countP_set_add (p : α → Bool) (y : α) (here : l[i]? = some x) :
    (l.set i y).countP p + (if p x then 1 else 0) = l.countP p + if p y then 1 else 0 := by
  induction l generalizing i with
  | nil => simp at here
  | cons head rest ih =>
      cases i with
      | zero =>
          obtain rfl : head = x := by simpa using here
          simp only [List.set_cons_zero, List.countP_cons]
          omega
      | succ i =>
          have tail := ih (i := i) (by simpa using here)
          simp only [List.set_cons_succ, List.countP_cons]
          omega

end Lists

/-! ## The invariant -/

/-- The rows that hold a key. -/
def World.holders (s : World) (key : String) : List Task :=
  s.db.task.rows.filter fun task => task.idempotencyKey = some key

/-- A committed row that holds the key. -/
structure Stored (s : World) (key : String) (task : Task) : Prop where
  member : task ∈ s.holders key
  committed : s.owner task.taskUuid = none

/-- A call of the tenant that stores the key. -/
structure Call.Of (tenant key : String) (call : Call) : Prop where
  tenant : call.principal.tenantId = tenant
  key : call.key = some key

/-- What a session that has come so far relies on. -/
def Sound (tenant key : String) (s : World) (i : Nat) : Session → Prop
  | .lookup call => call.Of tenant key
  | .insert call => call.Of tenant key
  | .commit call row => call.Of tenant key ∧ row ∈ s.holders key ∧ s.owner.Held i row.taskUuid
  | .refresh call row => call.Of tenant key ∧ Stored s key row
  | .reselect call => call.Of tenant key ∧ ∃ row, Stored s key row
  | .returned task _ => Stored s key task
  | .raised => False

structure Inv (tenant key : String) (s : World) : Prop where
  own : ∀ task ∈ s.holders key, task.tenantId = tenant
  count : (s.holders key).length = s.sessions.countP Session.creates
  one : (s.holders key).length ≤ 1
  /-- Only a call before its commit has an uncommitted row. -/
  owned : ∀ i taskUuid, s.owner.Held i taskUuid →
    ∃ call row, s.sessions[i]? = some (.commit call row) ∧ row.taskUuid = taskUuid
  sound : ∀ i session, s.sessions[i]? = some session → Sound tenant key s i session

theorem mem_holders {s : World} {key : String} {task : Task} :
    task ∈ s.holders key ↔ task ∈ s.db.task.rows ∧ task.idempotencyKey = some key := by
  simp [World.holders]

/-- The invariant of the sessions is about the rows and their owners. -/
theorem Sound.congr {tenant key : String} {s t : World} {i : Nat} {session : Session}
    (sound : Sound tenant key s i session)
    (holders : ∀ task ∈ s.holders key, task ∈ t.holders key)
    (owner : ∀ task ∈ s.holders key, s.owner task.taskUuid = none → t.owner task.taskUuid = none)
    (held : ∀ task ∈ s.holders key, s.owner.Held i task.taskUuid →
      t.owner.Held i task.taskUuid) :
    Sound tenant key t i session := by
  have stored : ∀ {task : Task}, Stored s key task → Stored t key task := fun old =>
    ⟨holders _ old.member, owner _ old.member old.committed⟩
  cases session with
  | lookup call => exact sound
  | insert call => exact sound
  | commit call row =>
      obtain ⟨of, member, mine⟩ := sound
      exact ⟨of, holders row member, held row member mine⟩
  | refresh call row => exact ⟨sound.1, stored sound.2⟩
  | reselect call =>
      obtain ⟨of, row, old⟩ := sound
      exact ⟨of, row, stored old⟩
  | returned task created => exact stored sound
  | raised => exact sound

/-- Moving a session writes no row. -/
theorem Sound.set {tenant key : String} {s : World} {i : Nat} {session : Session}
    (sound : Sound tenant key s i session) (j : Nat) (after : Session) :
    Sound tenant key (s.set j after) i session :=
  sound.congr (fun _ old => old) (fun _ _ free => free) fun _ _ held => held

namespace Inv

variable {tenant key : String} {s : World}

/-- At most one row holds the key. -/
theorem holders_eq (inv : Inv tenant key s) {row : Task} (member : row ∈ s.holders key) :
    s.holders key = [row] := by
  have some_ : 0 < (s.holders key).length := List.length_pos_of_mem member
  have one := inv.one
  obtain ⟨only, is⟩ := List.length_eq_one_iff.1 (by omega : (s.holders key).length = 1)
  rw [is] at member ⊢
  rw [List.mem_singleton.1 member]

/-- The SELECT by the key of a call. -/
theorem selectKey_eq (inv : Inv tenant key s) {call : Call} (of : call.Of tenant key) (i : Nat) :
    s.selectKey i call key = (s.holders key).filter fun task =>
      s.owner.openTo i task.taskUuid := by
  rw [World.selectKey, World.select, World.holders, List.filter_filter]
  refine List.filter_congr fun task member => ?_
  by_cases keyed : task.idempotencyKey = some key
  · have visible : call.principal.sees task.tenantId = true := by
      rw [inv.own task (mem_holders.2 ⟨member, keyed⟩), ← of.tenant]
      simp [TenantPrincipal.sees]
    simp [keyed, visible]
  · simp [keyed]

/-- The SELECT returns the committed row, or there is none. -/
theorem selectKey_cases (inv : Inv tenant key s) {call : Call} (of : call.Of tenant key)
    {i : Nat} (free : ∀ taskUuid, ¬ s.owner.Held i taskUuid) :
    (s.selectKey i call key = [] ∧ ∀ task, ¬ Stored s key task) ∨
      ∃ task, s.selectKey i call key = [task] ∧ Stored s key task := by
  have committed : ∀ task : Task, s.owner.openTo i task.taskUuid = true ↔
      s.owner task.taskUuid = none := by
    intro task
    have notMine : ¬ s.owner task.taskUuid = some i := free task.taskUuid
    simp [RowLocks.openTo, notMine]
  rw [inv.selectKey_eq of i]
  by_cases there : ∃ task, Stored s key task
  · obtain ⟨task, stored⟩ := there
    refine .inr ⟨task, ?_, stored⟩
    rw [inv.holders_eq stored.member]
    simp [(committed task).2 stored.committed]
  · have nowhere : ∀ task, ¬ Stored s key task := fun task stored => there ⟨task, stored⟩
    refine .inl ⟨?_, nowhere⟩
    rw [List.filter_eq_nil_iff]
    intro task member isOpen
    exact nowhere task ⟨member, (committed task).1 isOpen⟩

/-- A session that is not about to commit owns no row. -/
theorem not_held (inv : Inv tenant key s) {i : Nat} {session : Session}
    (here : s.sessions[i]? = some session) (other : ∀ call row, session ≠ .commit call row)
    (taskUuid : String) : ¬ s.owner.Held i taskUuid := by
  intro held
  obtain ⟨call, row, committing, -⟩ := inv.owned i taskUuid held
  exact other call row (Option.some.inj (here.symm.trans committing))

/-- A step of session `i` that writes no row. -/
theorem set (inv : Inv tenant key s) {i : Nat} {session after : Session}
    (here : s.sessions[i]? = some session) (other : ∀ call row, session ≠ .commit call row)
    (creates : after.creates = session.creates) (sound : Sound tenant key s i after) :
    Inv tenant key (s.set i after) := by
  have inside : i < s.sessions.length := (List.getElem?_eq_some_iff.1 here).1
  refine ⟨inv.own, ?_, inv.one, fun j taskUuid held => ?_, fun j other there => ?_⟩
  · have counted := countP_set_add Session.creates after here
    rw [creates] at counted
    have same : (s.set i after).sessions.countP Session.creates =
        s.sessions.countP Session.creates := by
      show (s.sessions.set i after).countP Session.creates = _
      omega
    rw [same]
    exact inv.count
  · have away : i ≠ j := by
      rintro rfl
      exact inv.not_held here other taskUuid held
    obtain ⟨call, row, committing, is⟩ := inv.owned j taskUuid held
    exact ⟨call, row, by simpa [World.set, List.getElem?_set_ne away] using committing, is⟩
  · by_cases same : i = j
    · subst same
      obtain rfl : after = other := by simpa [World.set, inside] using there
      exact sound.set i after
    · have old := inv.sound j other (by simpa [World.set, List.getElem?_set_ne same] using there)
      exact old.set i after

/-- The INSERT of a row that no committed row refuses. -/
theorem inserted (inv : Inv tenant key s) {i : Nat} {call : Call} {row : Task} {after : Database}
    (here : s.sessions[i]? = some (.insert call)) (of : call.Of tenant key)
    (owner : row.tenantId = tenant) (keyed : row.idempotencyKey = some key)
    (added : insertTask row s.db = some after) :
    Inv tenant key ((s.wrote i row.taskUuid after).set i (.commit call row)) := by
  obtain ⟨table, inTable, rfl, unused⟩ := insertTask_eq_some added
  obtain ⟨rows, fresh⟩ := Table.insert?_eq_some inTable
  have inside : i < s.sessions.length := (List.getElem?_eq_some_iff.1 here).1
  have none_ : s.holders key = [] := by
    rw [World.holders, List.filter_eq_nil_iff]
    intro task member same
    exact unused task member (by simp [keyed]) ((of_decide_eq_true same).trans keyed.symm)
  have holders : ((s.wrote i row.taskUuid { s.db with task := table }).set i
      (.commit call row)).holders key = [row] := by
    have both : table.rows.filter (fun task => task.idempotencyKey = some key) =
        s.holders key ++ [row] := by
      rw [rows, List.filter_append]
      simp [World.holders, keyed]
    rw [none_] at both
    exact both
  have elsewhere : ∀ {j : Nat}, j ≠ i →
      ((s.wrote i row.taskUuid { s.db with task := table }).set i (.commit call row)).sessions[j]? =
        s.sessions[j]? := fun away => List.getElem?_set_ne (Ne.symm away)
  refine ⟨fun task member => ?_, ?_, ?_, fun j taskUuid held => ?_, fun j other there => ?_⟩
  · rw [holders, List.mem_singleton] at member
    exact member ▸ owner
  · have counted := countP_set_add Session.creates (.commit call row) here
    have before := inv.count
    rw [none_] at before
    rw [holders]
    show [row].length = (s.sessions.set i (.commit call row)).countP Session.creates
    simp only [Session.creates, Session.created, List.length_nil, List.length_singleton,
      Bool.false_eq_true, if_false, if_true] at counted before ⊢
    omega
  · rw [holders]
    simp
  · by_cases away : j = i
    · subst away
      refine ⟨call, row, by simp [World.set, World.wrote, inside], ?_⟩
      by_contra differ
      have old : s.owner.Held j taskUuid := by
        have notRow : taskUuid ∉ [row.taskUuid] := by simpa using Ne.symm differ
        exact (if_neg notRow).symm.trans held
      exact inv.not_held here (by intro call row same; cases same) taskUuid old
    · rw [elsewhere away]
      exact inv.owned j taskUuid (RowLocks.Held.of_acquire away held)
  · by_cases away : j = i
    · subst away
      obtain rfl : Session.commit call row = other := by
        simpa [World.set, World.wrote, inside] using there
      refine ⟨of, ?_, RowLocks.held_acquire List.mem_cons_self⟩
      rw [holders]
      exact List.mem_cons_self
    · rw [elsewhere away] at there
      refine (inv.sound j other there).congr ?_ ?_ ?_ <;> rw [none_] <;> simp

/-- The commit of session `i`. -/
theorem committed (inv : Inv tenant key s) {i : Nat} {call : Call} {row : Task}
    (here : s.sessions[i]? = some (.commit call row)) :
    Inv tenant key ((s.commit i).set i (.refresh call row)) := by
  have inside : i < s.sessions.length := (List.getElem?_eq_some_iff.1 here).1
  obtain ⟨of, member, mine⟩ := inv.sound i _ here
  have elsewhere : ∀ {j : Nat}, j ≠ i →
      ((s.commit i).set i (.refresh call row)).sessions[j]? = s.sessions[j]? :=
    fun away => List.getElem?_set_ne (Ne.symm away)
  refine ⟨inv.own, ?_, inv.one, fun j taskUuid held => ?_, fun j other there => ?_⟩
  · have counted := countP_set_add Session.creates (.refresh call row) here
    simp only [Session.creates] at counted
    show (s.holders key).length =
      (s.sessions.set i (.refresh call row)).countP Session.creates
    rw [inv.count]
    omega
  · have old : s.owner.Held j taskUuid := RowLocks.Held.of_release held
    have away : j ≠ i := by
      rintro rfl
      exact RowLocks.not_held_release s.owner j taskUuid held
    rw [elsewhere away]
    exact inv.owned j taskUuid old
  · by_cases away : j = i
    · subst away
      obtain rfl : Session.refresh call row = other := by
        simpa [World.set, World.commit, inside] using there
      exact ⟨of, member, RowLocks.release_of_openTo (RowLocks.openTo_of_held mine)⟩
    · rw [elsewhere away] at there
      refine (inv.sound j other there).congr (fun _ old => old) (fun task _ free => ?_)
        fun task _ held => RowLocks.release_other away held
      exact RowLocks.release_of_openTo (RowLocks.openTo_of_free free)

end Inv

/-- A session without rows has nothing to roll back. -/
theorem rollback_eq_self {s : World} {i : Nat} (free : ∀ taskUuid, ¬ s.owner.Held i taskUuid) :
    s.rollback i = s := by
  have rows : s.db.task.delete (fun task => s.owner task.taskUuid = some i) = s.db.task := by
    apply Table.ext
    refine List.filter_eq_self.2 fun task _ => ?_
    have notMine : ¬ s.owner task.taskUuid = some i := free task.taskUuid
    simp [notMine]
  have owner : s.owner.release i = s.owner :=
    funext fun taskUuid => RowLocks.release_of_not_held (free taskUuid)
  rw [World.rollback, rows, owner]

/-- A flush that is refused has lost its key to a committed row. -/
theorem stored_of_refused {s : World} {i : Nat} {key : String} {row : Task}
    (keyed : row.idempotencyKey = some key) (fresh : row.taskUuid ∉ s.db.task.keys)
    (free : s.blocked i row = false) (notMine : ∀ taskUuid, ¬ s.owner.Held i taskUuid)
    (refused : insertTask row s.db = none) : ∃ task, Stored s key task := by
  unfold insertTask at refused
  split at refused
  · rename_i taken
    obtain ⟨task, member, same⟩ := List.mem_map.1 taken.2
    refine ⟨task, mem_holders.2 ⟨member, same.trans keyed⟩, ?_⟩
    have isOpen : s.owner.openTo i task.taskUuid = true := by
      refine Bool.of_not_eq_false fun closed => ?_
      have blocked : s.blocked i row = true := by
        simp only [World.blocked, keyed, Option.isSome_some, Bool.true_and, List.any_eq_true]
        exact ⟨task, member, by simpa [closed] using same.trans keyed⟩
      rw [free] at blocked
      cases blocked
    have other : ¬ s.owner task.taskUuid = some i := notMine task.taskUuid
    simpa [RowLocks.openTo, other] using isOpen
  · obtain ⟨table, inserted⟩ := Table.exists_insert? (r := row) fresh
    simp [inserted] at refused

/-- The SELECT of the refresh finds the row. -/
theorem select_refresh {tenant key : String} {s : World} (inv : Inv tenant key s) {i : Nat}
    {call : Call} {row : Task} (of : call.Of tenant key) (stored : Stored s key row) :
    ∃ rest, s.select i call.principal (fun task => task.taskUuid = row.taskUuid) = row :: rest := by
  have inTable := (mem_holders.1 stored.member).1
  have visible : call.principal.sees row.tenantId = true := by
    rw [inv.own row stored.member, ← of.tenant]
    simp [TenantPrincipal.sees]
  have found : row ∈ s.select i call.principal fun task => task.taskUuid = row.taskUuid := by
    refine List.mem_filter.2 ⟨inTable, ?_⟩
    simp [visible, RowLocks.openTo_of_free stored.committed]
  cases listed : s.select i call.principal fun task => task.taskUuid = row.taskUuid with
  | nil =>
      rw [listed] at found
      cases found
  | cons task rest =>
      have first : task ∈ s.select i call.principal fun task => task.taskUuid = row.taskUuid := by
        rw [listed]
        exact List.mem_cons_self
      obtain ⟨member, holds⟩ := List.mem_filter.1 first
      simp only [Bool.and_eq_true, decide_eq_true_eq] at holds
      rw [Table.eq_of_key_eq member inTable holds.1.1]
      exact ⟨rest, rfl⟩

/-! ## Steps -/

theorem inv_step {tenant key : String} {s t : World} {a : Action} (inv : Inv tenant key s)
    (stepped : step s a = some t) : Inv tenant key t := by
  obtain ⟨session, here, done⟩ := Option.bind_eq_some_iff.1 stepped
  have sound := inv.sound a.session session here
  cases session with
  | lookup call =>
      have of : call.Of tenant key := sound
      have free := inv.not_held here (by intro call row same; cases same)
      simp only [perform, of.key, Option.some.injEq] at done
      subst done
      obtain ⟨empty, -⟩ | ⟨task, single, stored⟩ := inv.selectKey_cases of free
      · rw [empty]
        exact inv.set here (by intro call row same; cases same) rfl of
      · rw [single]
        exact inv.set here (by intro call row same; cases same) rfl stored
  | insert call =>
      have of : call.Of tenant key := sound
      have free := inv.not_held here (by intro call row same; cases same)
      simp only [perform] at done
      split at done
      · cases done
      · rename_i fresh
        simp only [flush] at done
        split at done
        · cases done
        · rename_i unblocked
          split at done
          · rename_i after added
            obtain rfl := Option.some.inj done
            exact inv.inserted here of of.tenant of.key added
          · rename_i refused
            simp only [of.key, Option.some.injEq] at done
            subst done
            rw [rollback_eq_self free]
            refine inv.set here (by intro call row same; cases same) rfl ⟨of, ?_⟩
            exact stored_of_refused of.key fresh (by simpa using unblocked) free refused
  | commit call row =>
      obtain rfl := Option.some.inj done
      exact inv.committed here
  | refresh call row =>
      obtain ⟨of, stored⟩ := sound
      obtain ⟨rest, found⟩ := select_refresh (i := a.session) inv of stored
      simp only [perform, found, Option.some.injEq] at done
      subst done
      exact inv.set here (by intro call row same; cases same) rfl stored
  | reselect call =>
      obtain ⟨of, winner, stored⟩ := sound
      have free := inv.not_held here (by intro call row same; cases same)
      simp only [perform, of.key, Option.some.injEq] at done
      subst done
      obtain ⟨-, nowhere⟩ | ⟨task, single, found⟩ := inv.selectKey_cases of free
      · exact absurd stored (nowhere winner)
      · rw [single]
        exact inv.set here (by intro call row same; cases same) rfl found
  | returned task created => cases done
  | raised => cases done

theorem remaining_scalarOneOrNone (rows : List Task) (absent : Session) :
    (scalarOneOrNone rows absent).remaining ≤ absent.remaining := by
  unfold scalarOneOrNone
  split <;> simp [Session.remaining]

/-- A step moves one session, and that session forward. -/
theorem step_moves {s t : World} {a : Action} (stepped : step s a = some t) :
    ∃ session after, s.sessions[a.session]? = some session ∧
      t.sessions = s.sessions.set a.session after ∧ after.remaining < session.remaining := by
  obtain ⟨session, here, done⟩ := Option.bind_eq_some_iff.1 stepped
  refine ⟨session, ?_⟩
  cases session with
  | lookup call =>
      simp only [perform] at done
      split at done
      · obtain rfl := Option.some.inj done
        exact ⟨_, here, rfl, by simp [Session.remaining]⟩
      · rename_i key _
        obtain rfl := Option.some.inj done
        have bound := remaining_scalarOneOrNone (s.selectKey a.session call key) (.insert call)
        exact ⟨_, here, rfl, by simp only [Session.remaining] at bound ⊢; omega⟩
  | insert call =>
      simp only [perform] at done
      split at done
      · cases done
      · simp only [flush] at done
        split at done
        · cases done
        · split at done
          · obtain rfl := Option.some.inj done
            exact ⟨_, here, rfl, by simp [Session.remaining]⟩
          · split at done <;> obtain rfl := Option.some.inj done <;>
              exact ⟨_, here, rfl, by simp [Session.remaining]⟩
  | commit call row =>
      obtain rfl := Option.some.inj done
      exact ⟨_, here, rfl, by simp [Session.remaining]⟩
  | refresh call row =>
      simp only [perform] at done
      split at done <;> obtain rfl := Option.some.inj done <;>
        exact ⟨_, here, rfl, by simp [Session.remaining]⟩
  | reselect call =>
      simp only [perform] at done
      split at done
      · cases done
      · rename_i key _
        obtain rfl := Option.some.inj done
        have bound := remaining_scalarOneOrNone (s.selectKey a.session call key) .raised
        exact ⟨_, here, rfl, by simp only [Session.remaining] at bound ⊢; omega⟩
  | returned task created => cases done
  | raised => cases done

/-- The statements that all calls together can still take. -/
def World.remaining (s : World) : Nat := total Session.remaining s.sessions

theorem remaining_step {s t : World} {a : Action} (stepped : step s a = some t) :
    t.remaining < s.remaining := by
  obtain ⟨session, after, here, moved, less⟩ := step_moves stepped
  have summed := total_set Session.remaining after here
  rw [World.remaining, moved, World.remaining]
  omega

/-- As long as a call has not returned, some session can go on. -/
theorem enabled_of_unfinished {tenant key : String} {s : World} (inv : Inv tenant key s)
    {i : Nat} {session : Session} (here : s.sessions[i]? = some session)
    (unfinished : 0 < session.remaining) : ∃ a, step s a ≠ none := by
  by_cases committing : ∃ (j : Nat) (call : Call) (row : Task),
      s.sessions[j]? = some (.commit call row)
  · obtain ⟨j, call, row, there⟩ := committing
    exact ⟨⟨j, "", 0⟩, by simp [step, there, perform]⟩
  · -- Nobody owns a row, so nobody waits.
    have unowned : ∀ j taskUuid, ¬ s.owner.Held j taskUuid := by
      intro j taskUuid held
      obtain ⟨call, row, there, -⟩ := inv.owned j taskUuid held
      exact committing ⟨j, call, row, there⟩
    have sound := inv.sound i session here
    cases session with
    | lookup call =>
        have of : call.Of tenant key := sound
        exact ⟨⟨i, "", 0⟩, by simp [step, here, perform, of.key]⟩
    | insert call =>
        have of : call.Of tenant key := sound
        obtain ⟨taskUuid, fresh⟩ := Infinite.exists_notMem_finset s.db.task.keys.toFinset
        have absent : taskUuid ∉ s.db.task.keys := by simpa using fresh
        have unblocked :
            s.blocked i (call.args.row call.principal taskUuid 0) = false := by
          refine Bool.and_eq_false_imp.2 fun _ => ?_
          rw [List.any_eq_false]
          intro task member blocked
          have isOpen : s.owner.openTo i task.taskUuid = true := by
            apply RowLocks.openTo_of_free
            cases holder : s.owner task.taskUuid with
            | none => rfl
            | some j => exact absurd holder (unowned j task.taskUuid)
          simp [isOpen] at blocked
        cases flushed : flush s i call (call.args.row call.principal taskUuid 0) with
        | some t => exact ⟨⟨i, taskUuid, 0⟩, by simp [step, here, perform, absent, flushed]⟩
        | none =>
            simp only [flush, unblocked, of.key, Bool.false_eq_true, if_false] at flushed
            split at flushed <;> cases flushed
    | commit call row => exact absurd ⟨i, call, row, here⟩ committing
    | refresh call row =>
        obtain ⟨rest, found⟩ := select_refresh (i := i) inv sound.1 sound.2
        exact ⟨⟨i, "", 0⟩, by simp [step, here, perform, found]⟩
    | reselect call =>
        exact ⟨⟨i, "", 0⟩, by simp [step, here, perform, sound.1.key]⟩
    | returned task created => simp [Session.remaining] at unfinished
    | raised => simp [Session.remaining] at unfinished

/-! ## Runs -/

theorem inv_start {tenant key : String} {db : Database} {calls : List Call}
    (of : ∀ call ∈ calls, call.Of tenant key)
    (unused : ∀ task ∈ db.task.rows, task.idempotencyKey ≠ some key) :
    Inv tenant key (start db calls) := by
  have none_ : (start db calls).holders key = [] := by
    rw [World.holders, List.filter_eq_nil_iff]
    exact fun task member same => unused task member (of_decide_eq_true same)
  refine ⟨?_, ?_, ?_, fun i taskUuid held => ?_, fun i session here => ?_⟩
  · rw [none_]
    intro task member
    cases member
  · rw [none_]
    simp [start, List.countP_map, Function.comp_def, Session.creates, Session.created]
  · rw [none_]
    simp
  · exact absurd held (RowLocks.not_held_none_ i taskUuid)
  · obtain ⟨call, there, rfl⟩ : ∃ call, calls[i]? = some call ∧ Session.lookup call = session := by
      simpa [start] using here
    exact of call (List.mem_of_getElem? there)

/-- No session can go on. -/
def Complete (s : World) : Prop := ∀ a, submitters.step s a = none

/-- One committed row holds the key, every call returned it, and one returned it as created. -/
structure Settled (key : String) (s : World) : Prop where
  row : ∃ row, s.holders key = [row] ∧ s.owner row.taskUuid = none ∧
    ∀ session ∈ s.sessions, ∃ created, session = .returned row created
  creator : s.sessions.countP Session.created = 1

theorem Inv.settled {tenant key : String} {s : World} (inv : Inv tenant key s)
    (some_ : s.sessions ≠ []) (complete : Complete s) : Settled key s := by
  have finished : ∀ session ∈ s.sessions, ∃ task created,
      session = .returned task created ∧ Stored s key task := by
    intro session member
    obtain ⟨i, here⟩ := List.mem_iff_getElem?.1 member
    have sound := inv.sound i session here
    have over_ : ¬ 0 < session.remaining := by
      intro unfinished
      obtain ⟨a, enabled⟩ := enabled_of_unfinished inv here unfinished
      exact enabled (complete a)
    cases session with
    | returned task created => exact ⟨task, created, rfl, sound⟩
    | raised => exact sound.elim
    | lookup call => simp [Session.remaining] at over_
    | insert call => simp [Session.remaining] at over_
    | commit call row => simp [Session.remaining] at over_
    | refresh call row => simp [Session.remaining] at over_
    | reselect call => simp [Session.remaining] at over_
  obtain ⟨session, member⟩ := List.exists_mem_of_ne_nil _ some_
  obtain ⟨row, -, -, stored⟩ := finished session member
  have only := inv.holders_eq stored.member
  refine ⟨⟨row, only, stored.committed, fun other there => ?_⟩, ?_⟩
  · obtain ⟨task, created, is, alsoStored⟩ := finished other there
    have same := alsoStored.member
    rw [only, List.mem_singleton] at same
    exact ⟨created, same ▸ is⟩
  · have same : s.sessions.countP Session.created = s.sessions.countP Session.creates := by
      refine List.countP_congr fun other there => ?_
      obtain ⟨task, created, rfl, -⟩ := finished other there
      rfl
    rw [same, ← inv.count, only]
    rfl

/-- **Submission is idempotent.**  Whatever the interleaving of a tenant's calls with one fresh
key, it is finite and no call raises; when no call can go on any more, they have all returned
the one row that holds the key, and one of them has created it. -/
theorem submissions_idempotent {tenant key : String} {db : Database} {calls : List Call}
    (some_ : calls ≠ [])
    (own : ∀ call ∈ calls,
      call.principal.tenantId = tenant ∧ call.args.idempotencyKey = some key)
    (unused : ∀ task ∈ db.task.rows, task.idempotencyKey ≠ some (tenant ++ ":" ++ key))
    {actions : List Action} {t : World}
    (ran : submitters.run (start db calls) actions = some t) :
    actions.length ≤ 4 * calls.length ∧ Session.raised ∉ t.sessions ∧
      (Complete t → Settled (tenant ++ ":" ++ key) t) := by
  have of : ∀ call ∈ calls, call.Of tenant (tenant ++ ":" ++ key) := by
    intro call member
    obtain ⟨theirs, keyed⟩ := own call member
    exact ⟨theirs, by simp [Call.key, scopedKey, theirs, keyed]⟩
  have inv : Inv tenant (tenant ++ ":" ++ key) t :=
    Machine.inv_of_run (I := Inv tenant (tenant ++ ":" ++ key))
      (fun _ _ _ held stepped => inv_step held stepped) (inv_start of unused) ran
  refine ⟨?_, fun raised => ?_, fun complete => inv.settled ?_ complete⟩
  · have bounded := Machine.length_le_of_decreasing (m := World.remaining)
      (fun _ _ _ stepped => remaining_step stepped) ran
    have first : (start db calls).remaining = 4 * (start db calls).sessions.length := by
      refine total_const fun session member => ?_
      obtain ⟨call, -, rfl⟩ := List.mem_map.1 member
      rfl
    have length : (start db calls).sessions.length = calls.length := List.length_map _
    omega
  · obtain ⟨i, here⟩ := List.mem_iff_getElem?.1 raised
    exact inv.sound i .raised here
  · have same : t.sessions.length = calls.length := by
      have kept : ∀ s a u, s.sessions.length = calls.length → submitters.step s a = some u →
          u.sessions.length = calls.length := by
        intro s a u held stepped
        obtain ⟨session, after, -, moved, -⟩ := step_moves stepped
        rw [moved, List.length_set, held]
      exact Machine.inv_of_run (I := fun s => s.sessions.length = calls.length) kept
        (by simp [start]) ran
    intro empty
    rw [empty] at same
    exact some_ (List.length_eq_zero_iff.1 same.symm)

section Examples

/-- A client of `acme` that submits under the key `nightly`. -/
def nightly (priority : Nat) : Call where
  principal := { tenantId := "acme", subject := "cron", authMethod := .oidc }
  args :=
    { taskType := .compaction, datasetUuid := "d1", priority, idempotencyKey := some "nightly" }

/-- Both look the key up, the second INSERT waits for the first commit and is refused. -/
def race : List Action :=
  [⟨0, "", 0⟩, ⟨1, "", 0⟩, ⟨0, "u1", 1⟩, ⟨0, "", 1⟩, ⟨1, "u2", 1⟩, ⟨1, "", 2⟩, ⟨0, "", 2⟩]

theorem submissions_idempotent_race :
    ∃ t, submitters.run (start {} [nightly 5, nightly 1]) race = some t ∧
      race.length ≤ 4 * [nightly 5, nightly 1].length ∧ Session.raised ∉ t.sessions ∧
      Complete t ∧ Settled "acme:nightly" t := by
  have ends : (submitters.run (start {} [nightly 5, nightly 1]) race).any
      (fun t => t.remaining = 0) = true := by decide +kernel
  obtain ⟨t, ran, none_left⟩ := (Option.any_eq_true _ _).1 ends
  have complete : Complete t := fun action => by
    cases stepped : submitters.step t action with
    | none => rfl
    | some next =>
        have fewer := remaining_step stepped
        have spent : t.remaining = 0 := of_decide_eq_true none_left
        omega
  obtain ⟨bound, returned, settled⟩ :=
    @submissions_idempotent "acme" "nightly" _ _ (by simp) (by simp [nightly])
      (by simp [Table.empty]) _ _ ran
  exact ⟨t, ran, bound, returned, complete, settled complete⟩

end Examples

end Lcp.Submitters
