/-
The load of the worker connections: in a run whose steps are orderly each connection counts the
attempts that are routed to it, and is asked for no more than its capacity.
-/
import RolloutFabric.Adapter.Moves
import RolloutFabric.Orchestrator.BlastRadius

namespace RolloutFabric

namespace ProcessAdapter

variable {a b : ProcessAdapter} {attempt : AttemptId} {i j : Nat}

/-! ## Counting routes -/

theorem nodup_owned (a : ProcessAdapter) (i : Nat) : (a.owned i).Nodup := by
  have h := a.attemptRoutes.nodupKeys
  unfold List.NodupKeys List.keys at h
  exact h.sublist (List.filter_sublist.map _)

/-- The same attempts are routed to either. -/
theorem length_owned_congr
    (h : ∀ x, b.attemptRoutes.lookup x = some j ↔ a.attemptRoutes.lookup x = some i) :
    (b.owned j).length = (a.owned i).length := by
  refine ((List.perm_ext_iff_of_nodup (nodup_owned b j) (nodup_owned a i)).2 fun x => ?_).length_eq
  rw [mem_owned, mem_owned, h]

/-- One attempt more is routed there. -/
theorem length_owned_succ (hnew : a.attemptRoutes.lookup attempt ≠ some i)
    (h : ∀ x, b.attemptRoutes.lookup x = some j ↔
      x = attempt ∨ a.attemptRoutes.lookup x = some i) :
    (b.owned j).length = (a.owned i).length + 1 := by
  have hcons : (attempt :: a.owned i).Nodup :=
    List.nodup_cons.2 ⟨fun hmem => hnew (mem_owned.1 hmem), nodup_owned a i⟩
  refine ((List.perm_ext_iff_of_nodup (nodup_owned b j) hcons).2 fun x => ?_).length_eq
  rw [mem_owned, List.mem_cons, mem_owned, h]

/-! ## The load -/

/-- Each connection counts the attempts that are routed to it, and takes that many. -/
structure Balanced (a : ProcessAdapter) : Prop where
  counted : ∀ i, i < a.connections.length →
    (a.connectionAt i).inFlight.toNat = (a.owned i).length
  within : ∀ i, i < a.connections.length →
    (a.connectionAt i).inFlight ≤ (a.connectionAt i).capacity

/-- What is to show after a move that changes one post. -/
theorem Balanced.set (h : a.Balanced) {p : Post} (hposts : b.posts = a.posts.set i p)
    (hi : i < a.connections.length) (hcounted : p.inFlight.toNat = (b.owned i).length)
    (hwithin : p.inFlight ≤ p.capacity)
    (hother : ∀ j, j ≠ i → (b.owned j).length = (a.owned j).length) : b.Balanced := by
  have hat := post_of_set hposts hi
  have hin : ∀ j, (b.connectionAt j).inFlight = _ := fun j => congrArg Post.inFlight (hat j)
  have hcapacity : ∀ j, (b.connectionAt j).capacity = _ := fun j => congrArg Post.capacity (hat j)
  constructor
  · intro j hj
    rw [length_of_set hposts] at hj
    rw [hin]
    split
    · next hji => rw [hji, hcounted]
    · next hji =>
      rw [hother j hji]
      exact h.counted j hj
  · intro j hj
    rw [length_of_set hposts] at hj
    rw [hin, hcapacity]
    split
    · exact hwithin
    · exact h.within j hj

theorem Balanced.drop (h : a.Balanced) (hwired : a.Wired) {index : Nat} (hlossless : a.Lossless index)
    (detail : Bytes) (told : Bool) (now : Timestamp) :
    (a.dropConnection index detail told now).2.Balanced := by
  by_cases hindex : index < a.connections.length
  · have hshift : ∀ i, i < a.connections.length → i ≠ index →
        ((a.dropConnection index detail told now).2.owned (shift index i)).length
          = (a.owned i).length := fun i hi hne => by
      refine length_owned_congr fun x => ?_
      rw [lookup_dropConnection hindex]
      cases hroute : a.attemptRoutes.lookup x with
      | none => simp
      | some k =>
        rw [Option.bind_some, Option.some.injEq]
        split
        · next hk =>
          rcases hlossless with hnone | hnone
          · rw [hk, ← mem_owned, hnone] at hroute
            cases hroute
          · simp only [hnone, Option.map_none, reduceCtorEq, false_iff]
            exact fun hki => hne (hki.symm.trans hk)
        · next hk =>
          rw [Option.some.injEq]
          unfold shift
          split <;> split <;> omega
    constructor
    · intro j hj
      rw [length_dropConnection hindex] at hj
      obtain ⟨i, hi, hne, rfl⟩ := shift_surjective hj hindex
      rw [hshift i hi hne, hwired.connectionAt_drop hindex hi hne]
      exact h.counted i hi
    · intro j hj
      rw [length_dropConnection hindex] at hj
      obtain ⟨i, hi, hne, rfl⟩ := shift_surjective hj hindex
      rw [hwired.connectionAt_drop hindex hi hne]
      exact h.within i hi
  · rw [dropConnection_out (Nat.not_lt.1 hindex)]
    exact h

theorem toNat_add_one_of_lt {x y : UInt32} (h : x < y) : (x + 1).toNat = x.toNat + 1 := by
  have := UInt32.lt_iff_toNat_lt.1 h
  have := y.toNat_lt
  simp only [UInt32.toNat_add, UInt32.toNat_one]
  omega

/-- A calm move keeps the load balanced. -/
theorem Balanced.move {calm : Prop} (h : a.Balanced) (hwired : a.Wired) (hcalm : calm)
    (hmove : Move calm a b) : b.Balanced := by
  cases hmove with
  | still posts routes =>
    have hat := post_connectionAt posts
    constructor
    · intro i hi
      rw [length_of_posts posts] at hi
      rw [show (b.connectionAt i).inFlight = _ from congrArg Post.inFlight (hat i), owned, routes]
      exact h.counted i hi
    · intro i hi
      rw [length_of_posts posts] at hi
      rw [show (b.connectionAt i).inFlight = _ from congrArg Post.inFlight (hat i),
        show (b.connectionAt i).capacity = _ from congrArg Post.capacity (hat i)]
      exact h.within i hi
  -- the new connection is the last, and no route leads there yet
  | @attached c posts index inFlight routes =>
    have hlength : b.connections.length = a.connections.length + 1 := by
      simpa [ProcessAdapter.posts] using congrArg List.length posts
    have hat := post_of_append posts
    constructor
    · intro i hi
      rw [show (b.connectionAt i).inFlight = _ from congrArg Post.inFlight (hat i hi), owned, routes,
        ← owned]
      split
      · next hlast =>
        have hnone : a.owned i = [] := List.eq_nil_iff_forall_not_mem.2 fun x hx =>
          absurd (hwired.routed x i (mem_owned.1 hx)) (hlast ▸ Nat.lt_irrefl _)
        rw [hnone, show c.post.inFlight = 0 from inFlight]
        rfl
      · exact h.counted i (by omega)
    · intro i hi
      rw [show (b.connectionAt i).inFlight = _ from congrArg Post.inFlight (hat i hi),
        show (b.connectionAt i).capacity = _ from congrArg Post.capacity (hat i hi)]
      split
      · rw [show c.post.inFlight = 0 from inFlight]
        exact UInt32.le_iff_toNat_le.2 (Nat.zero_le _)
      · exact h.within i (by omega)
  -- one slot is taken and one route is made, both at this connection
  | @routed i attempt inside room fresh posts routes =>
    have hunrouted := fresh hcalm
    rw [hwired.index i inside] at routes
    have hlookup : ∀ x, b.attemptRoutes.lookup x
        = if x = attempt then some i else a.attemptRoutes.lookup x := fun x => by
      rw [routes]
      split
      · next hx => rw [hx, AList.lookup_insert]
      · next hx => rw [AList.lookup_insert_ne hx]
    have hone : (b.owned i).length = (a.owned i).length + 1 := by
      refine length_owned_succ (by rw [hunrouted]; simp) fun x => ?_
      rw [hlookup]
      split <;> simp_all
    refine h.set posts inside ?_ ?_ fun j hj => length_owned_congr fun x => ?_
    · rw [hone, ← h.counted i inside]
      exact toNat_add_one_of_lt room
    · rw [UInt32.le_iff_toNat_le]
      exact (toNat_add_one_of_lt room).trans_le (UInt32.lt_iff_toNat_lt.1 room)
    · rw [hlookup]
      split
      · next hx =>
        rw [hx, hunrouted]
        simp [Ne.symm hj]
      · rfl
  -- the route is dropped and its slot given back
  | @released i attempt inside route posts routes =>
    rw [hwired.index i inside] at route
    have hlookup : ∀ x, b.attemptRoutes.lookup x
        = if x = attempt then none else a.attemptRoutes.lookup x := fun x => by
      rw [routes]
      split
      · next hx => rw [hx, AList.lookup_erase]
      · next hx => rw [AList.lookup_erase_ne hx]
    have hone : (a.owned i).length = (b.owned i).length + 1 := by
      refine length_owned_succ (by rw [hlookup, if_pos rfl]; simp) fun x => ?_
      rw [hlookup]
      split
      · next hx =>
        subst hx
        simp [route]
      · next hx => simp [hx]
    have hcounted := h.counted i inside
    have hpos : 0 < (a.connectionAt i).inFlight :=
      UInt32.lt_iff_toNat_lt.2 (by rw [hcounted, hone]; exact Nat.succ_pos _)
    have hless : (release (a.connectionAt i)).post.inFlight.toNat = (b.owned i).length := by
      show (release (a.connectionAt i)).inFlight.toNat = _
      unfold release
      rw [if_pos hpos, UInt32.toNat_sub_of_le _ _ (UInt32.le_iff_toNat_le.2 ?_), hcounted, hone]
      · rfl
      · exact UInt32.lt_iff_toNat_lt.1 hpos
    refine h.set posts inside hless ?_ fun j hj => length_owned_congr fun x => ?_
    · have hwithin := UInt32.le_iff_toNat_le.1 (h.within i inside)
      rw [UInt32.le_iff_toNat_le, hless]
      show _ ≤ (a.connectionAt i).capacity.toNat
      omega
    · rw [hlookup]
      split
      · next hx =>
        rw [hx, route]
        simp [Ne.symm hj]
      · rfl
  -- the hello resets the load, and a calm connection has no routes then
  | @welcomed i context message inside unrouted posts routes =>
    refine h.set posts inside ?_ ?_ fun j hj => by rw [owned, routes, owned]
    · rw [owned, routes, ← owned, unrouted hcalm]
      rfl
    · exact UInt32.le_iff_toNat_le.2 (Nat.zero_le _)
  | dropped lossless result =>
    rw [result]
    exact h.drop hwired (lossless hcalm) _ _ _
  | cleared connections routes =>
    constructor <;>
    · intro i hi
      rw [connections] at hi
      exact absurd hi (Nat.not_lt_zero i)

/-! ## Runs -/

variable {options : ProcessAdapterOptions}

theorem Balanced.step (h : a.Balanced) (hwired : a.Wired) {s : AdapterStep}
    (horderly : a.Orderly options s) : (a.step options s).2.Balanced := by
  suffices hmoves : ∀ b, Relation.ReflTransGen (Move (a.Orderly options s)) a b →
      b.Wired ∧ b.Balanced from (hmoves _ (hwired.step_moves s)).2
  intro b hmoves
  induction hmoves with
  | refl => exact ⟨hwired, h⟩
  | tail _ hmove ih => exact ⟨ih.1.move hmove, ih.2.move ih.1 horderly hmove⟩

theorem Balanced.run (h : a.Balanced) (hwired : a.Wired) {steps : List AdapterStep}
    (horderly : a.Along options (Orderly options) steps) : (a.run options steps).Balanced := by
  induction steps generalizing a with
  | nil => exact h
  | cons s steps ih => exact ih (h.step hwired horderly.1) (hwired.step options s) horderly.2

/-- A worker is picked only if it carries fewer attempts than it takes. -/
theorem Balanced.pickWorker (h : a.Balanced) (hpick : a.pickWorker = some i) :
    (a.owned i).length < (a.connectionAt i).capacity.toNat := by
  obtain ⟨hi, -, hroom⟩ := pickWorker_some hpick
  rw [← h.counted i hi]
  exact UInt32.lt_iff_toNat_lt.1 hroom

/-- In every run whose steps are orderly each connection counts the attempts that are routed to it,
and they are no more than its capacity; and no worker that carries its capacity is picked. -/
theorem workers_within_capacity (options : ProcessAdapterOptions) (steps : List AdapterStep)
    (horderly : ({} : ProcessAdapter).Along options (Orderly options) steps) :
    (({} : ProcessAdapter).run options steps).Balanced
      ∧ ∀ dispatched i, let a := { ({} : ProcessAdapter).run options steps with dispatched }
        a.pickWorker = some i → (a.owned i).length < (a.connectionAt i).capacity.toNat := by
  have hempty : ({} : ProcessAdapter).Balanced :=
    ⟨fun _ hi => absurd hi (Nat.not_lt_zero _), fun _ hi => absurd hi (Nat.not_lt_zero _)⟩
  have h := hempty.run .empty horderly
  refine ⟨h, fun dispatched i hpick => ?_⟩
  have hcounted : Balanced { ({} : ProcessAdapter).run options steps with dispatched } :=
    ⟨h.counted, h.within⟩
  exact hcounted.pickWorker hpick

def loneHello : AdapterStep :=
  .frame 0 { type := .hello
             body := HelloMessage.encode { abiVersion := kRuntimeAbiVersion, worker := idOf 1
                                           incarnation := idOf 2, capacity := 1 } } { limits := {} }

/-- A worker that takes one attempt, announces itself and is sent one. -/
def loneRun : List AdapterStep :=
  [.attach .success {}, loneHello, .dispatch { fence := { attempt := idOf 3 } } {} {}]

theorem loneRun_counted :
    ((({} : ProcessAdapter).run {} loneRun).connectionAt 0).inFlight.toNat
      = ((({} : ProcessAdapter).run {} loneRun).owned 0).length := by
  have hnone : (({} : ProcessAdapter).run {} (loneRun.take 2)).attemptRoutes.entries = []
      ∧ (({} : ProcessAdapter).run {} loneRun).connections.length = 1 := by decide +kernel
  have howned : ∀ i, (({} : ProcessAdapter).run {} (loneRun.take 2)).owned i = [] := fun i => by
    rw [owned, hnone.1]
    rfl
  have horderly : ({} : ProcessAdapter).Along {} (Orderly {}) loneRun := by
    refine ⟨trivial, fun _ _ => rfl, fun i _ => ?_, trivial⟩
    split
    · exact congrArg (List.dlookup _) hnone.1
    · exact fun _ => .inl (howned i)
  exact (workers_within_capacity {} loneRun horderly).1.counted 0 (by rw [hnone.2]; decide)

/-- When the worker announces itself again, the attempt it carries is no longer counted, and it is
picked for another one. -/
theorem repeated_hello_loses_count : ∃ options steps i,
    let a := ({} : ProcessAdapter).run options steps
    ¬ a.Balanced ∧ a.pickWorker = some i
      ∧ (a.connectionAt i).capacity.toNat ≤ (a.owned i).length := by
  have h : let a := ({} : ProcessAdapter).run {} (loneRun ++ [loneHello])
      a.connections.length = 1 ∧ (a.connectionAt 0).inFlight = 0 ∧ (a.owned 0).length = 1
        ∧ a.pickWorker = some 0 ∧ (a.connectionAt 0).capacity = 1 := by decide +kernel
  obtain ⟨hlength, hcount, howned, hpick, hcapacity⟩ := h
  refine ⟨{}, loneRun ++ [loneHello], 0, fun hbalanced => ?_, hpick, ?_⟩
  · have := hbalanced.counted 0 (by rw [hlength]; exact Nat.one_pos)
    rw [hcount, howned] at this
    cases this
  · rw [hcapacity, howned]
    rfl

end ProcessAdapter

end RolloutFabric
