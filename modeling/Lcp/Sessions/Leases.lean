/-
# Sessions.Leases -- what concurrent registrations leave, and what they return

Registrations of one worker race: two first ones insert the same key, two later ones write
the same row from copies of their own, and each reads the row again after its commit.

* `registrations_settle`: whatever the order, no call fails, the committed lease of a worker
  is that of the last registration committed, each call returns a lease registered no earlier
  than its own, and every call ends.
* `leases_exclusive`: where no registration of a worker commits between another's commit and
  its refresh, each call returns its own lease, and no two calls the same.

`lease_shared` is a run without that condition: two callers hold the current lease.
-/
import Lcp.Sessions.IdempotentSubmissions
import Lcp.Sessions.Registrars

namespace Lcp.Registrars

open Theory Calls SchedulerService
open Submitters (total total_set total_const)

set_option autoImplicit false

/-! ## Steps, inverted -/

/-- What a step does. -/
inductive Move (s : World) : Action → World → Prop
  | found {i : Nat} {newLease : String} {now : DateTime} {args : Registration} {retries : Nat}
      {existing : WorkerRegistry} (was : s.sessions[i]? = some (.calling args retries))
      (fresh : newLease ∉ s.drawn) (row : s.registry.get args.workerId = some existing) :
      Move s (.statement i newLease now) ({ s with drawn := newLease :: s.drawn }.set i
        (.updating existing (args.refresh newLease now existing)))
  | absent {i : Nat} {newLease : String} {now : DateTime} {args : Registration} {retries : Nat}
      (was : s.sessions[i]? = some (.calling args retries)) (fresh : newLease ∉ s.drawn)
      (row : s.registry.get args.workerId = none) :
      Move s (.statement i newLease now) ({ s with drawn := newLease :: s.drawn }.set i
        (.inserting args (args.row newLease now) retries))
  | inserted {i : Nat} {newLease : String} {now : DateTime} {args : Registration}
      {row : WorkerRegistry} {retries : Nat}
      (was : s.sessions[i]? = some (.inserting args row retries))
      (isOpen : s.locks.openTo i row.workerId = true)
      (free : s.registry.get row.workerId = none) :
      Move s (.statement i newLease now)
        ((s.lock i row.workerId).set i (.committing (.insert row)))
  | refused {i : Nat} {newLease : String} {now : DateTime} {args : Registration}
      {row existing : WorkerRegistry} {retries : Nat}
      (was : s.sessions[i]? = some (.inserting args row retries))
      (isOpen : s.locks.openTo i row.workerId = true)
      (taken : s.registry.get row.workerId = some existing) :
      Move s (.statement i newLease now) ((s.rollback i).set i
        (if 2 ≤ retries then .raised else .calling args (retries + 1)))
  | issued {i : Nat} {newLease : String} {now : DateTime} {loaded modified row : WorkerRegistry}
      (was : s.sessions[i]? = some (.updating loaded modified))
      (isOpen : s.locks.openTo i loaded.workerId = true)
      (found : s.registry.get loaded.workerId = some row) :
      Move s (.statement i newLease now)
        ((s.lock i loaded.workerId).set i (.committing (.update loaded modified)))
  | stale {i : Nat} {newLease : String} {now : DateTime} {loaded modified : WorkerRegistry}
      (was : s.sessions[i]? = some (.updating loaded modified))
      (isOpen : s.locks.openTo i loaded.workerId = true)
      (gone : s.registry.get loaded.workerId = none) :
      Move s (.statement i newLease now) ((s.rollback i).set i .raised)
  | committed {i : Nat} {newLease : String} {now : DateTime} {write : Write}
      (was : s.sessions[i]? = some (.committing write)) :
      Move s (.statement i newLease now)
        ((s.commit i write).set i (.refreshing write.workerId write.leaseId))
  | refreshed {i : Nat} {newLease : String} {now : DateTime} {workerId leaseId : String}
      {row : WorkerRegistry} (was : s.sessions[i]? = some (.refreshing workerId leaseId))
      (found : s.registry.get workerId = some row) :
      Move s (.statement i newLease now) (s.set i (.returned leaseId row))
  | lost {i : Nat} {newLease : String} {now : DateTime} {workerId leaseId : String}
      (was : s.sessions[i]? = some (.refreshing workerId leaseId))
      (gone : s.registry.get workerId = none) :
      Move s (.statement i newLease now) (s.set i .raised)
  | other {workerId : String} {change : Change} (free : s.locks workerId = none) :
      Move s (.other workerId change)
        { s with registry := s.registry.update workerId change.apply change.keepsId }

theorem step_move {s t : World} {a : Action} (stepped : step s a = some t) : Move s a t := by
  cases a with
  | other workerId change =>
      rw [step] at stepped
      split at stepped
      · rename_i free
        obtain rfl := Option.some.inj stepped
        exact .other free
      · cases stepped
  | statement i newLease now =>
      obtain ⟨session, was, performed⟩ := Option.bind_eq_some_iff.1 stepped
      cases session with
      | calling args retries =>
          rw [perform, attempt] at performed
          split at performed
          · cases performed
          · rename_i fresh
            obtain rfl := Option.some.inj performed
            cases row : s.registry.get args.workerId with
            | some existing => exact .found was fresh row
            | none => exact .absent was fresh row
      | inserting args row retries =>
          rw [perform, flush] at performed
          split at performed
          · rename_i isOpen
            split at performed
            · rename_i free
              obtain rfl := Option.some.inj performed
              exact .inserted was isOpen free
            · rename_i existing taken
              obtain rfl := Option.some.inj performed
              exact .refused was isOpen taken
          · cases performed
      | updating loaded modified =>
          rw [perform, update] at performed
          split at performed
          · rename_i isOpen
            split at performed
            · rename_i row found
              obtain rfl := Option.some.inj performed
              exact .issued was isOpen found
            · rename_i gone
              obtain rfl := Option.some.inj performed
              exact .stale was isOpen gone
          · cases performed
      | committing write =>
          obtain rfl := Option.some.inj performed
          exact .committed was
      | refreshing workerId leaseId =>
          rw [perform] at performed
          split at performed
          · rename_i row found
            obtain rfl := Option.some.inj performed
            exact .refreshed was found
          · rename_i gone
            obtain rfl := Option.some.inj performed
            exact .lost was gone
      | returned leaseId row => cases performed
      | raised => cases performed

/-! ## The invariant -/

/-- The lease is that of a registration of the worker committed no earlier than `own`. -/
def Since (s : World) (workerId own leaseId : String) : Prop :=
  ∃ later earlier, s.published = later ++ (workerId, own) :: earlier ∧
    (workerId, leaseId) ∈ later ++ [(workerId, own)]

/-- What a session that has come so far relies on. -/
def Sound (s : World) (i : Nat) : Session → Prop
  | .calling args retries => retries ≤ 1 ∧ (retries = 1 → args.workerId ∈ s.registry.keys)
  | .inserting args row retries => retries = 0 ∧ row.workerId = args.workerId
  | .updating loaded modified =>
      loaded.workerId ∈ s.registry.keys ∧ loaded.leaseId ≠ modified.leaseId
  | .committing (.insert row) =>
      s.locks.Held i row.workerId ∧ s.registry.get row.workerId = none
  | .committing (.update loaded modified) =>
      s.locks.Held i loaded.workerId ∧ loaded.workerId ∈ s.registry.keys ∧
        loaded.leaseId ≠ modified.leaseId
  | .refreshing workerId own =>
      workerId ∈ s.registry.keys ∧ (workerId, own) ∈ s.published
  | .returned own row => Since s row.workerId own row.leaseId
  | .raised => False

/-- The registrations and the registry; `before` has the leases that were there at the start. -/
structure Inv (before : String → Option String) (s : World) : Prop where
  leases : ∀ row ∈ s.registry.rows, row.leaseId ∈ s.drawn
  known : ∀ session ∈ s.sessions, ∀ lease ∈ session.leaseId?, lease ∈ s.drawn
  one : OnePerKey Session.leaseId? s.sessions
  current : ∀ workerId, s.leaseOf workerId = (s.latest workerId).or (before workerId)
  /-- Only a call before its commit holds a lock. -/
  owned : ∀ i workerId, s.locks.Held i workerId →
    ∃ write, s.sessions[i]? = some (.committing write) ∧ write.workerId = workerId
  sound : ∀ i session, s.sessions[i]? = some session → Sound s i session

/-- What a step leaves of the state that session `i` relies on. -/
structure Extends (i : Nat) (s t : World) : Prop where
  keys : ∀ workerId ∈ s.registry.keys, workerId ∈ t.registry.keys
  published : ∃ more, t.published = more ++ s.published
  held : ∀ workerId, s.locks.Held i workerId → t.locks.Held i workerId
  absent : ∀ workerId, s.locks.Held i workerId → s.registry.get workerId = none →
    t.registry.get workerId = none

theorem Since.extend {s t : World} {workerId own leaseId : String}
    (since : Since s workerId own leaseId) (more : ∃ more, t.published = more ++ s.published) :
    Since t workerId own leaseId := by
  obtain ⟨later, earlier, split, member⟩ := since
  obtain ⟨more, published⟩ := more
  refine ⟨more ++ later, earlier, ?_, ?_⟩
  · rw [published, split, List.append_assoc]
  · rw [List.append_assoc]
    exact List.mem_append_right more member

theorem Sound.extend {s t : World} {i : Nat} {session : Session} (sound : Sound s i session)
    (extends_ : Extends i s t) : Sound t i session := by
  cases session with
  | calling args retries =>
      obtain ⟨few, again⟩ := sound
      exact ⟨few, fun one => extends_.keys _ (again one)⟩
  | inserting args row retries => exact sound
  | updating loaded modified =>
      obtain ⟨member, differ⟩ := sound
      exact ⟨extends_.keys _ member, differ⟩
  | committing write =>
      cases write with
      | insert row =>
          obtain ⟨held, free⟩ := sound
          exact ⟨extends_.held _ held, extends_.absent _ held free⟩
      | update loaded modified =>
          obtain ⟨held, member, differ⟩ := sound
          exact ⟨extends_.held _ held, extends_.keys _ member, differ⟩
  | refreshing workerId own =>
      obtain ⟨member, listed⟩ := sound
      obtain ⟨more, published⟩ := extends_.published
      refine ⟨extends_.keys _ member, ?_⟩
      rw [published]
      exact List.mem_append_right more listed
  | returned own row => exact Since.extend sound extends_.published
  | raised => exact sound

/-- The lease that a call finds after its commit. -/
theorem since_of_latest {s : World} {workerId own leaseId : String}
    (listed : (workerId, own) ∈ s.published) (latest : s.latest workerId = some leaseId) :
    Since s workerId own leaseId := by
  obtain ⟨later, earlier, split⟩ := List.append_of_mem listed
  obtain ⟨⟨k, l⟩, found, rfl⟩ := Option.map_eq_some_iff.1 latest
  have same : k = workerId := by simpa using List.find?_some found
  subst same
  refine ⟨later, earlier, split, ?_⟩
  rw [split, List.find?_append] at found
  cases first : later.find? fun entry => entry.1 = k with
  | some entry =>
      rw [first] at found
      obtain rfl := Option.some.inj found
      exact List.mem_append_left _ (List.mem_of_find?_eq_some first)
  | none =>
      rw [first, List.find?_cons_of_pos (by simp)] at found
      obtain ⟨-, rfl⟩ := Prod.mk.inj (Option.some.inj found)
      exact List.mem_append_right _ (.head _)

theorem latest_isSome {s : World} {workerId own : String}
    (listed : (workerId, own) ∈ s.published) : ∃ leaseId, s.latest workerId = some leaseId := by
  have found : (s.published.find? fun entry => entry.1 = workerId).isSome = true := by
    rw [List.find?_isSome]
    exact ⟨_, listed, by simp⟩
  obtain ⟨entry, is⟩ := Option.isSome_iff_exists.1 found
  exact ⟨entry.2, by rw [World.latest, is]; rfl⟩

/-! ## Every step keeps it -/

theorem exists_get {s : World} {workerId : String} (member : workerId ∈ s.registry.keys) :
    ∃ row, s.registry.get workerId = some row := by
  obtain ⟨row, listed, rfl⟩ := List.mem_map.1 member
  exact ⟨row, Table.get_of_mem listed⟩

theorem Extends.of_same {i : Nat} {s t : World} (registry : t.registry = s.registry)
    (published : t.published = s.published)
    (held : ∀ workerId, s.locks.Held i workerId → t.locks.Held i workerId) : Extends i s t where
  keys := by simp [registry]
  published := ⟨[], by simp [published]⟩
  held := held
  absent := by simp [registry]

section Steps

variable {before : String → Option String} {s t : World} {i : Nat}

theorem Inv.not_held (inv : Inv before s) {session : Session}
    (was : s.sessions[i]? = some session) (idle : ∀ write, session ≠ .committing write)
    (workerId : String) : ¬ s.locks.Held i workerId := by
  intro held
  obtain ⟨write, is, -⟩ := inv.owned i workerId held
  exact idle write (Option.some.inj (was.symm.trans is))

/-- The invariant after a step of session `i`, from what the step does. -/
theorem Inv.moved (inv : Inv before s) {session after : Session}
    (was : s.sessions[i]? = some session) (sessions : t.sessions = s.sessions.set i after)
    (leases : ∀ row ∈ t.registry.rows, row.leaseId ∈ t.drawn)
    (grown : ∀ lease ∈ s.drawn, lease ∈ t.drawn)
    (draws : ∀ lease ∈ after.leaseId?,
      session.leaseId? = some lease ∨ lease ∉ s.drawn ∧ lease ∈ t.drawn)
    (current : ∀ workerId, t.leaseOf workerId = (t.latest workerId).or (before workerId))
    (owned : ∀ j workerId, t.locks.Held j workerId → j ≠ i ∧ s.locks.Held j workerId ∨
      j = i ∧ ∃ write, after = .committing write ∧ write.workerId = workerId)
    (others : ∀ j, j ≠ i → Extends j s t) (sound : Sound t i after) : Inv before t := by
  have listed : i < s.sessions.length := (List.getElem?_eq_some_iff.1 was).1
  refine ⟨leases, ?_, ?_, current, ?_, ?_⟩
  · rw [sessions]
    refine forall_moved
      (fun other member lease has => grown _ (inv.known other member lease has)) ?_
    intro lease has
    rcases draws lease has with kept | ⟨-, drawn⟩
    · exact grown _ (inv.known session (List.mem_of_getElem? was) lease kept)
    · exact drawn
  · rw [sessions]
    refine inv.one.moved was fun lease has => ?_
    rcases draws lease has with kept | ⟨fresh, -⟩
    · exact .inl kept
    · exact .inr fun other member same => fresh (inv.known other member lease same)
  · intro j workerId held
    rcases owned j workerId held with ⟨apart, earlier⟩ | ⟨rfl, write, rfl, same⟩
    · obtain ⟨write, is, same⟩ := inv.owned j workerId earlier
      refine ⟨write, ?_, same⟩
      rw [sessions, List.getElem?_set_ne (Ne.symm apart)]
      exact is
    · refine ⟨write, ?_, same⟩
      rw [sessions]
      exact get_moved was
  · intro j other is
    rw [sessions] at is
    rcases moved_cases is with ⟨apart, here⟩ | ⟨rfl, rfl⟩
    · exact (inv.sound j other here).extend (others j apart)
    · exact sound

/-- A step that leaves the registry and the registrations as they are. -/
theorem Inv.waited (inv : Inv before s) {session after : Session}
    (was : s.sessions[i]? = some session) (sessions : t.sessions = s.sessions.set i after)
    (registry : t.registry = s.registry) (published : t.published = s.published)
    (grown : ∀ lease ∈ s.drawn, lease ∈ t.drawn)
    (draws : ∀ lease ∈ after.leaseId?,
      session.leaseId? = some lease ∨ lease ∉ s.drawn ∧ lease ∈ t.drawn)
    (owned : ∀ j workerId, t.locks.Held j workerId → j ≠ i ∧ s.locks.Held j workerId ∨
      j = i ∧ ∃ write, after = .committing write ∧ write.workerId = workerId)
    (held : ∀ j, j ≠ i → ∀ workerId, s.locks.Held j workerId → t.locks.Held j workerId)
    (sound : Sound t i after) : Inv before t := by
  refine inv.moved was sessions ?_ grown draws ?_ owned
    (fun j apart => .of_same registry published (held j apart)) sound
  · rw [registry]
    exact fun row member => grown _ (inv.leases row member)
  · intro workerId
    have same := inv.current workerId
    rw [World.leaseOf, World.latest] at same ⊢
    rw [registry, published]
    exact same

/-- A session takes the lock for its write. -/
theorem Inv.locked (inv : Inv before s) {session : Session} (write : Write)
    (was : s.sessions[i]? = some session) (idle : ∀ write, session ≠ .committing write)
    (keeps : session.leaseId? = some write.leaseId)
    (isOpen : s.locks.openTo i write.workerId = true)
    (sound : Sound ((s.lock i write.workerId).set i (.committing write)) i (.committing write)) :
    Inv before ((s.lock i write.workerId).set i (.committing write)) := by
  refine inv.waited was rfl rfl rfl (fun lease drawn => drawn) ?_ ?_ ?_ sound
  · intro lease has
    obtain rfl := Option.some.inj has
    exact .inl keeps
  · intro j workerId held
    by_cases same : j = i
    · subst same
      refine .inr ⟨rfl, write, rfl, ?_⟩
      by_contra apart
      have elsewhere : workerId ∉ [write.workerId] := by simpa using Ne.symm apart
      have earlier : s.locks.Held j workerId := by
        have kept : (s.locks.acquire j [write.workerId]) workerId = some j := held
        rwa [RowLocks.acquire, if_neg elsewhere] at kept
      exact inv.not_held was idle workerId earlier
    · exact .inl ⟨same, RowLocks.Held.of_acquire same held⟩
  · intro j apart workerId held
    refine RowLocks.acquire_other apart (fun row member => ?_) held
    obtain rfl := List.mem_singleton.1 member
    exact isOpen

theorem keys_apply (registry : Table WorkerRegistry WorkerRegistry.workerId) (write : Write) :
    ∀ workerId ∈ registry.keys, workerId ∈ (write.apply registry).keys := by
  intro workerId member
  cases write with
  | update loaded modified =>
      rw [Write.apply, Table.keys_update]
      exact member
  | insert row =>
      rw [Write.apply, Table.insert]
      cases inserted : registry.insert? row with
      | none => exact member
      | some after =>
          rw [Option.getD_some, Table.keys_insert? inserted]
          exact List.mem_append_left _ member

/-- What a write leaves when it is committed. -/
theorem get_apply {write : Write} (sound : Sound s i (.committing write)) (workerId : String) :
    (workerId = write.workerId → ∃ row, (write.apply s.registry).get workerId = some row ∧
      row.leaseId = write.leaseId) ∧
    (workerId ≠ write.workerId →
      (write.apply s.registry).get workerId = s.registry.get workerId) := by
  cases write with
  | insert row =>
      obtain ⟨registry, inserted, same⟩ := Table.insert?_of_get_eq_none sound.2
      have applied : (Write.insert row).apply s.registry = registry := same
      rw [applied]
      constructor
      · rintro rfl
        exact ⟨row, Table.get_of_mem ((Table.mem_insert? inserted).2 (.inr rfl)), rfl⟩
      · intro apart
        exact Table.get_insert?_of_ne inserted apart
  | update loaded modified =>
      obtain ⟨-, member, differ⟩ := sound
      rw [Write.apply, Table.get_update]
      constructor
      · rintro rfl
        obtain ⟨row, found⟩ := exists_get member
        refine ⟨flushRegistration loaded modified row, ?_, ?_⟩
        · show (if loaded.workerId = loaded.workerId then
            (s.registry.get loaded.workerId).map (flushRegistration loaded modified) else _) = _
          rw [if_pos rfl, found]
          rfl
        · exact if_neg (Ne.symm differ)
      · intro apart
        exact if_neg apart

/-- A committed write registers its lease. -/
theorem Inv.commits (inv : Inv before s) {write : Write}
    (was : s.sessions[i]? = some (.committing write)) :
    Inv before ((s.commit i write).set i (.refreshing write.workerId write.leaseId)) := by
  have sound := inv.sound i _ was
  have drawn : write.leaseId ∈ s.drawn := inv.known _ (List.mem_of_getElem? was) _ rfl
  have mine : s.locks.Held i write.workerId := by
    cases write with
    | insert row => exact sound.1
    | update loaded modified => exact sound.1
  have stored := get_apply sound
  refine inv.moved was rfl ?_ (fun lease old => old) ?_ ?_ ?_ ?_ ?_
  · intro row member
    have found := Table.get_of_mem member
    by_cases same : row.workerId = write.workerId
    · obtain ⟨written, is, lease⟩ := (stored row.workerId).1 same
      obtain rfl : written = row := Option.some.inj (is.symm.trans found)
      rw [lease]
      exact drawn
    · have kept := (stored row.workerId).2 same
      exact inv.leases row (Table.mem_of_get (kept.symm.trans found))
  · intro lease has
    obtain rfl := Option.some.inj has
    exact .inl rfl
  · intro workerId
    show ((write.apply s.registry).get workerId).map WorkerRegistry.leaseId =
      ((((write.workerId, write.leaseId) :: s.published).find? fun entry =>
        entry.1 = workerId).map Prod.snd).or (before workerId)
    by_cases same : workerId = write.workerId
    · subst same
      obtain ⟨row, is, lease⟩ := (stored write.workerId).1 rfl
      rw [is, List.find?_cons_of_pos (by simp)]
      simp [lease]
    · rw [(stored workerId).2 same, List.find?_cons_of_neg (by simpa using Ne.symm same)]
      exact inv.current workerId
  · intro j workerId held
    have apart : j ≠ i := by
      rintro rfl
      exact RowLocks.not_held_release s.locks j workerId held
    exact .inl ⟨apart, RowLocks.Held.of_release held⟩
  · intro j apart
    refine ⟨keys_apply s.registry write, ⟨[_], rfl⟩, fun workerId held =>
      RowLocks.release_other apart held, fun workerId held free => ?_⟩
    have other : workerId ≠ write.workerId := by
      rintro rfl
      exact apart (held.unique mine)
    exact ((stored workerId).2 other).trans free
  · obtain ⟨row, is, -⟩ := (stored write.workerId).1 rfl
    exact ⟨Table.mem_keys_of_get is, .head _⟩

/-- Another service's commit leaves the leases. -/
theorem Inv.others (inv : Inv before s) (workerId : String) (change : Change) :
    Inv before { s with registry := s.registry.update workerId change.apply change.keepsId } := by
  have get : ∀ other,
      (s.registry.update workerId change.apply change.keepsId).get other =
        if other = workerId then (s.registry.get other).map change.apply
        else s.registry.get other := fun other =>
    Table.get_update s.registry workerId other change.apply change.keepsId
  refine ⟨?_, inv.known, inv.one, ?_, inv.owned, ?_⟩
  · intro row member
    have found := Table.get_of_mem member
    rw [get] at found
    split at found
    · obtain ⟨old, is, rfl⟩ := Option.map_eq_some_iff.1 found
      rw [change.keepsLease]
      exact inv.leases old (Table.mem_of_get is)
    · exact inv.leases row (Table.mem_of_get found)
  · intro other
    have same := inv.current other
    rw [World.leaseOf] at same ⊢
    rw [get]
    split
    · rw [Option.map_map]
      have kept : WorkerRegistry.leaseId ∘ change.apply = WorkerRegistry.leaseId :=
        funext change.keepsLease
      rw [kept]
      exact same
    · exact same
  · intro j session is
    refine (inv.sound j session is).extend ⟨?_, ⟨[], rfl⟩, fun _ held => held, ?_⟩
    · intro other member
      rw [Table.keys_update]
      exact member
    · intro other _ free
      rw [get, free]
      simp

/-- **Every step keeps the invariant.** -/
theorem Inv.step (inv : Inv before s) {a : Action} (stepped : step s a = some t) :
    Inv before t := by
  have released : ∀ {i : Nat} {session : Session}, s.sessions[i]? = some session →
      (∀ write, session ≠ .committing write) → ∀ j workerId,
        (s.locks.release i).Held j workerId → j ≠ i ∧ s.locks.Held j workerId := by
    intro i session was idle j workerId held
    have earlier := RowLocks.Held.of_release held
    refine ⟨?_, earlier⟩
    rintro rfl
    exact inv.not_held was idle workerId earlier
  have kept : ∀ {i : Nat} {session : Session}, s.sessions[i]? = some session →
      (∀ write, session ≠ .committing write) → ∀ j workerId,
        s.locks.Held j workerId → j ≠ i ∧ s.locks.Held j workerId := by
    intro i session was idle j workerId held
    refine ⟨?_, held⟩
    rintro rfl
    exact inv.not_held was idle workerId held
  cases step_move stepped with
  | @found i newLease now args retries existing was fresh row =>
      have idle : ∀ write, Session.calling args retries ≠ .committing write := by simp
      refine inv.waited was rfl rfl rfl (fun lease old => .tail _ old) ?_
        (fun j workerId held => .inl (kept was idle j workerId held)) (fun j _ _ held => held) ?_
      · intro lease has
        obtain rfl : newLease = lease := Option.some.inj has
        exact .inr ⟨fresh, .head _⟩
      · refine ⟨?_, ?_⟩
        · rw [Table.key_of_get row]
          exact Table.mem_keys_of_get row
        intro same
        have listed := inv.leases existing (Table.mem_of_get row)
        rw [same] at listed
        exact fresh listed
  | @absent i newLease now args retries was fresh row =>
      have idle : ∀ write, Session.calling args retries ≠ .committing write := by simp
      refine inv.waited was rfl rfl rfl (fun lease old => .tail _ old) ?_
        (fun j workerId held => .inl (kept was idle j workerId held)) (fun j _ _ held => held) ?_
      · intro lease has
        obtain rfl : newLease = lease := Option.some.inj has
        exact .inr ⟨fresh, .head _⟩
      · obtain ⟨few, again⟩ := inv.sound i _ was
        refine ⟨?_, rfl⟩
        by_contra some_
        obtain ⟨existing, found⟩ := exists_get (again (by omega))
        rw [row] at found
        cases found
  | @inserted i newLease now args row retries was isOpen free =>
      exact inv.locked (.insert row) was (by simp) rfl isOpen
        ⟨RowLocks.held_acquire (.head _), free⟩
  | @refused i newLease now args row existing retries was isOpen taken =>
      obtain ⟨rfl, same⟩ := inv.sound i _ was
      refine inv.waited was rfl rfl rfl (fun lease old => old) (by simp [Session.leaseId?])
        (fun j workerId held => .inl (released was (by simp) j workerId held))
        (fun j apart workerId held => RowLocks.release_other apart held) ?_
      refine ⟨le_refl 1, fun _ => ?_⟩
      rw [← same]
      exact Table.mem_keys_of_get taken
  | @issued i newLease now loaded modified row was isOpen found =>
      obtain ⟨member, differ⟩ := inv.sound i _ was
      exact inv.locked (.update loaded modified) was (by simp) rfl isOpen
        ⟨RowLocks.held_acquire (.head _), member, differ⟩
  | @stale i newLease now loaded modified was isOpen gone =>
      obtain ⟨row, found⟩ := exists_get (inv.sound i _ was).1
      rw [gone] at found
      cases found
  | committed was => exact inv.commits was
  | @refreshed i newLease now workerId leaseId row was found =>
      refine inv.waited was rfl rfl rfl (fun lease old => old) ?_
        (fun j workerId held => .inl (kept was (by simp) j workerId held))
        (fun j _ _ held => held) ?_
      · intro lease has
        exact .inl has
      · have listed := (inv.sound i _ was).2
        obtain rfl := Table.key_of_get found
        obtain ⟨latest, is⟩ := latest_isSome listed
        have current := inv.current row.workerId
        rw [World.leaseOf, found, is] at current
        obtain rfl : row.leaseId = latest := Option.some.inj current
        exact since_of_latest listed is
  | @lost i newLease now workerId leaseId was gone =>
      obtain ⟨row, found⟩ := exists_get (inv.sound i _ was).1
      rw [gone] at found
      cases found
  | @other workerId change free => exact inv.others workerId change

end Steps

/-! ## Every call ends -/

/-- The statements that the calls can still take. -/
def World.remaining (s : World) : Nat := total Session.remaining s.sessions

theorem remaining_set {s t : World} {i : Nat} {session after : Session}
    (was : s.sessions[i]? = some session) (sessions : t.sessions = s.sessions.set i after)
    (pays : after.remaining + 1 ≤ session.remaining) : t.remaining + 1 ≤ s.remaining := by
  have moved := total_set Session.remaining after was
  rw [← sessions] at moved
  show total Session.remaining t.sessions + 1 ≤ total Session.remaining s.sessions
  omega

/-- Every statement is paid for; an INSERT is refused once at most. -/
theorem remaining_step {before : String → Option String} {s t : World} {a : Action}
    (inv : Inv before s) (stepped : step s a = some t) :
    t.remaining + (if a.isStatement then 1 else 0) ≤ s.remaining := by
  cases step_move stepped with
  | found was =>
      refine remaining_set was rfl ?_
      have few := (inv.sound _ _ was).1
      simp only [Session.remaining]
      omega
  | absent was =>
      refine remaining_set was rfl ?_
      have few := (inv.sound _ _ was).1
      simp only [Session.remaining]
      omega
  | inserted was =>
      obtain ⟨rfl, -⟩ := inv.sound _ _ was
      exact remaining_set was rfl (by simp [Session.remaining])
  | refused was =>
      obtain ⟨rfl, -⟩ := inv.sound _ _ was
      exact remaining_set was rfl (by simp [Session.remaining])
  | issued was | stale was | committed was | refreshed was | lost was =>
      exact remaining_set was rfl (by simp [Session.remaining])
  | other free => exact le_refl s.remaining

/-- A world with an unfinished call has one that nobody makes wait. -/
theorem enabled_of_remaining {before : String → Option String} {s : World} (inv : Inv before s)
    (unfinished : s.remaining ≠ 0) :
    ∃ i newLease now, step s (.statement i newLease now) ≠ none := by
  by_cases committing : ∃ (i : Nat) (write : Write), s.sessions[i]? = some (.committing write)
  · obtain ⟨i, write, is⟩ := committing
    exact ⟨i, "", 0, by simp [step, is, perform]⟩
  · -- Nobody holds a lock, so nobody waits.
    have free : ∀ i workerId, s.locks.openTo i workerId = true := by
      intro i workerId
      apply RowLocks.openTo_of_free
      cases holder : s.locks workerId with
      | none => rfl
      | some j =>
          obtain ⟨write, is, -⟩ := inv.owned j workerId holder
          exact absurd ⟨j, write, is⟩ committing
    have some_ : ∃ session ∈ s.sessions, session.remaining ≠ 0 := by
      by_contra over_
      push Not at over_
      refine unfinished ((total_const over_).trans ?_)
      rw [Nat.zero_mul]
    obtain ⟨session, member, left⟩ := some_
    obtain ⟨i, is⟩ := List.mem_iff_getElem?.1 member
    cases session with
    | calling args retries =>
        obtain ⟨newLease, fresh⟩ := Infinite.exists_notMem_finset s.drawn.toFinset
        have drawn : newLease ∉ s.drawn := by simpa using fresh
        exact ⟨i, newLease, 0, by simp [step, is, perform, attempt, drawn]⟩
    | inserting args row retries =>
        refine ⟨i, "", 0, ?_⟩
        cases found : s.registry.get row.workerId <;>
          simp [step, is, perform, flush, free, found]
    | updating loaded modified =>
        refine ⟨i, "", 0, ?_⟩
        cases found : s.registry.get loaded.workerId <;>
          simp [step, is, perform, update, free, found]
    | committing write => exact absurd ⟨i, write, is⟩ committing
    | refreshing workerId leaseId =>
        refine ⟨i, "", 0, ?_⟩
        cases found : s.registry.get workerId <;> simp [step, is, perform, found]
    | returned leaseId row => exact absurd rfl left
    | raised => exact absurd rfl left

/-! ## Runs -/

theorem inv_start (registry : Table WorkerRegistry WorkerRegistry.workerId)
    (calls : List Registration) :
    Inv (start registry calls).leaseOf (start registry calls) := by
  have calling : ∀ session ∈ (start registry calls).sessions,
      ∃ args, session = .calling args 0 := by
    intro session member
    obtain ⟨args, -, rfl⟩ := List.mem_map.1 member
    exact ⟨args, rfl⟩
  refine ⟨fun row member => List.mem_map_of_mem member, ?_, ?_, fun workerId => ?_, ?_, ?_⟩
  · intro session member lease has
    obtain ⟨args, rfl⟩ := calling session member
    cases has
  · intro i j session other lease is _ has
    obtain ⟨args, rfl⟩ := calling session (List.mem_of_getElem? is)
    cases has
  · rfl
  · intro i workerId held
    exact absurd held (RowLocks.not_held_none_ i workerId)
  · intro i session is
    obtain ⟨args, rfl⟩ := calling session (List.mem_of_getElem? is)
    exact ⟨Nat.zero_le 1, nofun⟩

/-- What registrations leave, and what they return; `before` has the leases at the start. -/
structure Settled (before : String → Option String) (s : World) : Prop where
  /-- No call fails. -/
  answered : ∀ session ∈ s.sessions, session ≠ .raised
  /-- The committed lease is that of the last registration. -/
  current : ∀ workerId, s.leaseOf workerId = (s.latest workerId).or (before workerId)
  /-- A call returns the lease of a registration no earlier than its own. -/
  returned : ∀ own row, .returned own row ∈ s.sessions → Since s row.workerId own row.leaseId

theorem Inv.settled {before : String → Option String} {s : World} (inv : Inv before s) :
    Settled before s := by
  refine ⟨?_, inv.current, ?_⟩
  · rintro session member rfl
    obtain ⟨i, is⟩ := List.mem_iff_getElem?.1 member
    exact inv.sound i _ is
  · intro own row member
    obtain ⟨i, is⟩ := List.mem_iff_getElem?.1 member
    exact inv.sound i _ is

/-- **Concurrent registrations settle**, in every interleaving with each other and with the
other services: no call fails, the last registration has the row, and each call returns after at
most eight statements, none of which waits for ever. -/
theorem registrations_settle (registry : Table WorkerRegistry WorkerRegistry.workerId)
    (calls : List Registration) (as : List Action) :
    registrars.Always (Settled (start registry calls).leaseOf) (start registry calls) as ∧
      ∀ s, registrars.run (start registry calls) as = some s →
        as.countP Action.isStatement + s.remaining ≤ 8 * calls.length ∧
          (s.remaining ≠ 0 → ∃ i newLease now, step s (.statement i newLease now) ≠ none) := by
  have begins := inv_start registry calls
  constructor
  · have always : registrars.Always (Inv (start registry calls).leaseOf)
        (start registry calls) as :=
      ⟨begins, Machine.along_of_step (fun s a t inv stepped =>
        ⟨inv.step stepped, inv.step stepped⟩) begins as⟩
    exact always.mono fun s inv => inv.settled
  · intro s ran
    have inv : Inv (start registry calls).leaseOf s :=
      Machine.inv_of_run (fun _ _ _ inv stepped => inv.step stepped) begins ran
    have paid := Machine.count_le_of_paying (I := Inv (start registry calls).leaseOf)
      (m := World.remaining) (p := Action.isStatement) (fun _ _ _ inv stepped => inv.step stepped)
      (fun _ _ _ inv stepped => remaining_step inv stepped) begins ran
    have whole : (start registry calls).remaining = 8 * calls.length := by
      have each : ∀ session ∈ (start registry calls).sessions, session.remaining = 8 := by
        intro session member
        obtain ⟨args, -, rfl⟩ := List.mem_map.1 member
        rfl
      rw [World.remaining, total_const each, start, List.length_map]
    exact ⟨by omega, enabled_of_remaining inv⟩

/-! ## Exclusive leases -/

namespace Session

/-- Between its commit of this worker's row and its refresh. -/
def isRefreshing (workerId : String) : Session → Bool
  | .refreshing other _ => other = workerId
  | _ => false

end Session

/-- No registration of a worker commits between another's commit and its refresh. -/
def calm (s : World) : Action → Bool
  | .statement i _ _ =>
      match s.sessions[i]? with
      | some (.committing write) => !s.sessions.any (Session.isRefreshing write.workerId)
      | _ => true
  | .other .. => true

/-- A call that has committed finds its own lease. -/
structure Own (s : World) : Prop where
  refreshing : ∀ workerId own, .refreshing workerId own ∈ s.sessions →
    s.latest workerId = some own
  returned : ∀ own row, .returned own row ∈ s.sessions → row.leaseId = own

theorem Own.moved {s t : World} (own : Own s) {i : Nat} {after : Session}
    (sessions : t.sessions = s.sessions.set i after) (published : t.published = s.published)
    (refreshing : ∀ workerId lease, after ≠ .refreshing workerId lease)
    (returned : ∀ lease row, after = .returned lease row → row.leaseId = lease) : Own t := by
  constructor
  · intro workerId lease member
    rw [sessions] at member
    rw [World.latest, published]
    rcases List.mem_or_eq_of_mem_set member with old | new
    · exact own.refreshing workerId lease old
    · exact absurd new.symm (refreshing workerId lease)
  · intro lease row member
    rw [sessions] at member
    rcases List.mem_or_eq_of_mem_set member with old | new
    · exact own.returned lease row old
    · exact returned lease row new.symm

theorem Own.step {before : String → Option String} {s t : World} {a : Action}
    (own : Own s) (inv : Inv before s) (guard : calm s a = true) (stepped : step s a = some t) :
    Own t := by
  cases step_move stepped with
  | found | absent | inserted | issued | stale | lost =>
      exact own.moved rfl rfl (by simp) (by simp)
  | refused was =>
      obtain ⟨rfl, -⟩ := inv.sound _ _ was
      exact own.moved rfl rfl (by simp) (by simp)
  | @refreshed i newLease now workerId leaseId row was found =>
      refine own.moved rfl rfl (by simp) ?_
      intro lease other same
      obtain ⟨rfl, rfl⟩ := Session.returned.inj same
      have latest := own.refreshing workerId leaseId (List.mem_of_getElem? was)
      have current := inv.current workerId
      rw [World.leaseOf, found, latest] at current
      exact Option.some.inj current
  | other free => exact ⟨own.refreshing, own.returned⟩
  | @committed i newLease now write was =>
      constructor
      · intro workerId lease member
        show (((write.workerId, write.leaseId) :: s.published).find? fun entry =>
          entry.1 = workerId).map Prod.snd = some lease
        rcases List.mem_or_eq_of_mem_set member with old | new
        · have quiet : s.sessions.any (Session.isRefreshing write.workerId) = false := by
            simpa [calm, was] using guard
          have apart : write.workerId ≠ workerId := by
            rintro rfl
            have refreshes := List.any_eq_false.1 quiet _ old
            simp [Session.isRefreshing] at refreshes
          rw [List.find?_cons_of_neg (by simpa using apart)]
          exact own.refreshing workerId lease old
        · obtain ⟨rfl, rfl⟩ := Session.refreshing.inj new
          rw [List.find?_cons_of_pos (by simp)]
          rfl
      · intro lease row member
        rcases List.mem_or_eq_of_mem_set member with old | new
        · exact own.returned lease row old
        · cases new

/-- **Leases are exclusive**, in every interleaving in which no registration of a worker commits
between another's commit and its refresh: each call returns the lease it drew, and no two calls
return one lease. -/
theorem leases_exclusive {registry : Table WorkerRegistry WorkerRegistry.workerId}
    {calls : List Registration} {as : List Action}
    (guarded : registrars.Guarded (fun s a => calm s a = true) (start registry calls) as) :
    registrars.Always (fun s =>
      (∀ own row, .returned own row ∈ s.sessions → row.leaseId = own) ∧
        ∀ (i j : Nat) (own other : String) (row otherRow : WorkerRegistry),
          s.sessions[i]? = some (.returned own row) →
          s.sessions[j]? = some (.returned other otherRow) →
          row.leaseId = otherRow.leaseId → i = j) (start registry calls) as := by
  have begins : Own (start registry calls) := by
    constructor
    · intro workerId own member
      obtain ⟨args, -, is⟩ := List.mem_map.1 member
      cases is
    · intro own row member
      obtain ⟨args, -, is⟩ := List.mem_map.1 member
      cases is
  have always : registrars.Always
      (fun s => Inv (start registry calls).leaseOf s ∧ Own s) (start registry calls) as :=
    Machine.always_of_inv (fun s a t both guard stepped =>
      ⟨both.1.step stepped, both.2.step both.1 guard stepped⟩)
      ⟨inv_start registry calls, begins⟩ guarded
  refine always.mono fun s both => ⟨both.2.returned, ?_⟩
  intro i j own other row otherRow is is_other same
  have mine := both.2.returned own row (List.mem_of_getElem? is)
  have theirs := both.2.returned other otherRow (List.mem_of_getElem? is_other)
  refine both.1.one i j _ _ own is is_other rfl ?_
  show some other = some own
  rw [← mine, ← theirs, same]

section Examples

private def worker : Registration := { workerId := "w", workerType := "lifecycle" }

/-- The statements of the calls in this order; call `i` draws `lease-i` and then `again-i`. -/
private def inOrder (order : List (Nat × String)) : List Action :=
  order.map fun (i, newLease) => .statement i newLease 0

/-- Two first registrations: the second INSERT is refused, and the call starts over. -/
private def raced : List Action :=
  inOrder [(0, "lease-0"), (1, "lease-1"), (0, ""), (0, ""), (0, ""), (1, ""), (1, "again-1"),
    (1, ""), (1, ""), (1, "")]

/-- The second call registers between the first one's commit and its refresh. -/
private def overtaken : List Action :=
  inOrder [(0, "lease-0"), (0, ""), (0, ""), (1, "lease-1"), (1, ""), (1, ""), (0, ""), (1, "")]

private def returnedLeases (s : World) : List (Option String) :=
  s.sessions.map fun
    | .returned _ row => some row.leaseId
    | _ => none

theorem leases_exclusive_raced :
    (registrars.run (start .empty [worker, worker]) raced).map returnedLeases =
        some [some "lease-0", some "again-1"] ∧
      registrars.Always (fun s =>
        (∀ own row, .returned own row ∈ s.sessions → row.leaseId = own) ∧
          ∀ (i j : Nat) (own other : String) (row otherRow : WorkerRegistry),
            s.sessions[i]? = some (.returned own row) →
            s.sessions[j]? = some (.returned other otherRow) →
            row.leaseId = otherRow.leaseId → i = j) (start .empty [worker, worker]) raced :=
  ⟨by decide, leases_exclusive (by decide)⟩

/-- **Two callers share a lease** when the second overtakes the first one's refresh. -/
theorem lease_shared :
    (registrars.run (start .empty [worker, worker]) overtaken).map returnedLeases =
      some [some "lease-1", some "lease-1"] := by decide

end Examples

end Lcp.Registrars
