/-
Every step of the adapter as the moves it makes on the posts and the routes, and what holds of the
routes after every run.
-/
import RolloutFabric.Adapter.Posts
import RolloutFabric.Adapter.Routes

namespace RolloutFabric

/-- What a step may do to the posts and the routes. Where `calm` holds, no attempt is routed twice,
no connection announces itself over its routes, and no route is handed to another connection. -/
inductive Move (calm : Prop) (a b : ProcessAdapter) : Prop
  | still (posts : b.posts = a.posts) (routes : b.attemptRoutes = a.attemptRoutes)
  | attached {c : Connection} (posts : b.posts = a.posts ++ [c.post])
    (index : c.index = a.connections.length) (inFlight : c.inFlight = 0)
    (routes : b.attemptRoutes = a.attemptRoutes)
  | routed {i : Nat} {attempt : AttemptId} (inside : i < a.connections.length)
    (room : (a.connectionAt i).inFlight < (a.connectionAt i).capacity)
    (fresh : calm → a.attemptRoutes.lookup attempt = none)
    (posts : b.posts = a.posts.set i
      { a.connectionAt i with inFlight := (a.connectionAt i).inFlight + 1 : Connection }.post)
    (routes : b.attemptRoutes = a.attemptRoutes.insert attempt (a.connectionAt i).index)
  | released {i : Nat} {attempt : AttemptId} (inside : i < a.connections.length)
    (route : a.attemptRoutes.lookup attempt = some (a.connectionAt i).index)
    (posts : b.posts = a.posts.set i (ProcessAdapter.release (a.connectionAt i)).post)
    (routes : b.attemptRoutes = a.attemptRoutes.erase attempt)
  | welcomed {i : Nat} {context : FrameContext} {message : HelloMessage}
    (inside : i < a.connections.length)
    (unrouted : calm → a.owned i = [])
    (posts : b.posts = a.posts.set i
      (ProcessAdapter.announced (a.connectionAt i) context message).post)
    (routes : b.attemptRoutes = a.attemptRoutes)
  | dropped {index : Nat} {detail : Bytes} {told : Bool} {now : Timestamp}
    (lossless : calm → a.owned index = [] ∨ a.replacement index = none)
    (result : b = (a.dropConnection index detail told now).2)
  | cleared (connections : b.connections = []) (routes : b.attemptRoutes = ∅)

namespace ProcessAdapter

variable {calm : Prop} {a b : ProcessAdapter} {c : Connection} {i j : Nat}

/-! ## Posts -/

theorem posts_setConnection : (a.setConnection i c).posts = a.posts.set i c.post := List.map_set

theorem posts_set_self (h : c.post = (a.connectionAt i).post) :
    a.posts.set i c.post = a.posts := by
  refine List.ext_getElem? fun j => ?_
  rw [List.getElem?_set]
  split
  · next hij =>
    subst hij
    split
    · next hi =>
      rw [posts, List.length_map] at hi
      rw [posts_getElem?, List.getElem?_eq_getElem hi, h, connectionAt,
        List.getD_eq_getElem?_getD, List.getElem?_eq_getElem hi]
      rfl
    · next hi => exact (List.getElem?_eq_none (Nat.not_lt.1 hi)).symm
  · rfl

/-- Who stands where, once the post at `i` is another. -/
theorem post_of_set {p : Post} (h : b.posts = a.posts.set i p) (hi : i < a.connections.length)
    (j : Nat) : (b.connectionAt j).post = if j = i then p else (a.connectionAt j).post := by
  have hj := congrArg (·[j]?) h
  simp only [posts_getElem?, List.getElem?_set] at hj
  unfold connectionAt
  rw [List.getD_eq_getElem?_getD, List.getD_eq_getElem?_getD]
  by_cases hij : i = j
  · subst hij
    rw [if_pos rfl, if_pos (by rwa [posts, List.length_map])] at hj
    obtain ⟨d, hd, hp⟩ := Option.map_eq_some_iff.1 hj
    rw [hd, if_pos rfl]
    exact hp
  · rw [if_neg hij] at hj
    rw [if_neg (Ne.symm hij)]
    cases hb : b.connections[j]? <;> cases ha : a.connections[j]? <;> simp_all

theorem length_of_set {p : Post} (h : b.posts = a.posts.set i p) :
    b.connections.length = a.connections.length := by
  simpa [posts] using congrArg List.length h

/-- Who stands where, once one more connection has come. -/
theorem post_of_append (h : b.posts = a.posts ++ [c.post]) (j : Nat)
    (hj : j < b.connections.length) : (b.connectionAt j).post
      = if j = a.connections.length then c.post else (a.connectionAt j).post := by
  have hlength : b.connections.length = a.connections.length + 1 := by
    simpa [posts] using congrArg List.length h
  have hat := congrArg (·[j]?) h
  simp only [List.getElem?_append, List.length_map, posts] at hat
  unfold connectionAt
  rw [List.getD_eq_getElem?_getD, List.getD_eq_getElem?_getD]
  by_cases hlt : j < a.connections.length
  · rw [if_neg (Nat.ne_of_lt hlt)]
    simp_all
  · obtain rfl : j = a.connections.length := by omega
    rw [if_pos rfl]
    simp_all

/-- What is found for a lost connection depends on the other ones, and on who it was. -/
theorem replacement_setConnection (hworker : c.worker = (a.connectionAt i).worker)
    (hincarnation : c.incarnation = (a.connectionAt i).incarnation) :
    (a.setConnection i c).replacement i = a.replacement i := by
  by_cases hi : i < a.connections.length
  · unfold replacement
    rw [length_setConnection]
    congr 1
    funext other
    rw [connectionAt_setConnection hi, connectionAt_setConnection hi, if_pos rfl, hworker,
      hincarnation]
    by_cases hother : other = i
    · rw [hother, bne_self_eq_false, Bool.false_and, Bool.false_and, Bool.false_and]
      rfl
    · rw [if_neg hother]
  · unfold setConnection
    rw [List.set_eq_of_length_le (Nat.not_lt.1 hi)]

/-! ## The moves of a step -/

/-- Losing the connection hands no route over. -/
def Lossless (a : ProcessAdapter) (index : Nat) : Prop :=
  a.owned index = [] ∨ a.replacement index = none

/-- No attempt is sent to a worker while it has a route, no connection announces itself while
attempts are routed to it, and no connection is lost with routes that another one takes over. -/
def Orderly (options : ProcessAdapterOptions) (a : ProcessAdapter) : AdapterStep → Prop
  | .dispatch request sending _ => ∀ i,
    { a with dispatched := a.dispatched + 1 : ProcessAdapter }.pickWorker = some i →
      if ((a.connectionAt i).sendTo sending).1.isOk then
        a.attemptRoutes.lookup request.fence.attempt = none
      else ((a.connectionAt i).sendTo sending).1.code ≠ .resourceExhausted → a.Lossless i
  | .frame i frame context => ∀ message,
    Announces { context with limits := options.limits } frame message → a.owned i = []
  | .drop i _ _ => a.Lossless i
  | .ask i _ sending _ => ((a.connectionAt i).sendTo sending).1.isOk = false → a.Lossless i
  | .attach _ _ | .cancel _ _ | .fail _ _ | .collect _ | .closeAll => True

variable {options : ProcessAdapterOptions}

theorem pickWorker_some (h : a.pickWorker = some i) :
    i < a.connections.length ∧ (a.connectionAt i).usable = true
      ∧ (a.connectionAt i).inFlight < (a.connectionAt i).capacity := by
  have hmem := List.mem_of_find?_eq_some h
  have hp := List.find?_some h
  obtain ⟨k, hk, rfl⟩ := List.mem_map.1 hmem
  rw [Bool.and_eq_true, decide_eq_true_iff] at hp
  exact ⟨Nat.mod_lt _ (Nat.zero_lt_of_lt (List.mem_range.1 hk)), hp.1, hp.2⟩

/-- A connection is lost after its channel has failed. -/
theorem Move.of_drop {a' : ProcessAdapter} (hc : c.post = (a.connectionAt i).post)
    (hconnections : a'.connections = a.connections.set i c)
    (hroutes : a'.attemptRoutes = a.attemptRoutes) (hcalm : calm → a.Lossless i)
    (detail : Bytes) (told : Bool) (now : Timestamp) :
    Relation.ReflTransGen (Move calm) a (a'.dropConnection i detail told now).2 := by
  have hposts : a'.posts = a.posts := by
    rw [posts, hconnections, List.map_set]
    exact posts_set_self hc
  refine (Relation.ReflTransGen.single (.still hposts hroutes)).tail (.dropped (fun h => ?_) rfl)
  have howned : a'.owned i = a.owned i := by rw [owned, hroutes, owned]
  have hreplacement : a'.replacement i = a.replacement i := by
    rw [← replacement_setConnection (congrArg Post.worker hc) (congrArg Post.incarnation hc)]
    unfold replacement setConnection connectionAt
    rw [hconnections]
  rw [howned, hreplacement]
  exact hcalm h

theorem Wired.attach_moves (h : a.Wired) (maxWorkers : Nat) (prepared : Status)
    (now : Timestamp) :
    Relation.ReflTransGen (Move calm) a (a.attach maxWorkers prepared now).2.2 := by
  unfold attach
  split
  · exact .refl
  dsimp only
  have hattached : Move calm a { a with
      connections := a.connections ++ [{ index := a.connections.length, failure := prepared
                                         serial := a.attached }]
      attached := a.attached + 1 } := .attached (List.map_append ..) rfl rfl rfl
  split
  · exact .single hattached
  refine (Relation.ReflTransGen.single hattached).tail (.dropped (fun _ => .inl ?_) rfl)
  -- nothing is routed to a connection that has just come
  refine List.eq_nil_iff_forall_not_mem.2 fun attempt hmem => ?_
  exact absurd (h.routed attempt _ (mem_owned.1 hmem)) (Nat.lt_irrefl _)

theorem Wired.dispatchTo_moves (h : a.Wired) {attempt : AttemptId} {sending : Sending}
    (hi : i < a.connections.length)
    (hroom : (a.connectionAt i).inFlight < (a.connectionAt i).capacity)
    (hcalm : calm → if ((a.connectionAt i).sendTo sending).1.isOk then
        a.attemptRoutes.lookup attempt = none
      else ((a.connectionAt i).sendTo sending).1.code ≠ .resourceExhausted → a.Lossless i)
    (now : Timestamp) :
    Relation.ReflTransGen (Move calm) a (a.dispatchTo i attempt sending now).2.2 := by
  have hpost := (a.connectionAt i).sendTo_post sending
  unfold dispatchTo
  generalize (a.connectionAt i).sendTo sending = sent at hpost hcalm
  obtain ⟨queued, c⟩ := sent
  dsimp only at hpost hcalm ⊢
  have hposts : (a.countFrame.setConnection i c).posts = a.posts :=
    posts_setConnection.trans (posts_set_self hpost)
  have hat : (a.countFrame.setConnection i c).connectionAt i = c :=
    (connectionAt_setConnection hi).trans (if_pos rfl)
  split
  · next hqueued =>
    refine (Relation.ReflTransGen.single (.still hposts rfl)).tail (.routed (i := i) ?_ ?_ ?_ ?_ rfl)
    · rwa [length_setConnection]
    · rw [hat, show c.inFlight = _ from congrArg Post.inFlight hpost,
        show c.capacity = _ from congrArg Post.capacity hpost]
      exact hroom
    · intro hquiet
      have := hcalm hquiet
      rwa [if_pos hqueued] at this
    · exact posts_setConnection
  next hqueued =>
  split
  · exact .single (.still hposts rfl)
  next hcode =>
  have hindex : c.index = i := (congrArg Post.index hpost).trans (h.index i hi)
  dsimp only
  rw [hindex]
  refine Move.of_drop hpost ?_ ?_ (fun hquiet => ?_) _ _ _
  · rfl
  · rfl
  have := hcalm hquiet
  rw [if_neg hqueued] at this
  exact this hcode

theorem frame_moves (hi : i < a.connections.length) (context : FrameContext)
    (frame : Frame) (hcalm : calm → ∀ message, Announces context frame message → a.owned i = []) :
    Move calm a (a.handleFrame context i frame).2 := by
  unfold handleFrame
  have hhandles : Handles { a with sinkHint := true } (a.connectionAt i) context frame
      ({ a with sinkHint := true : ProcessAdapter }.handle (a.connectionAt i) context frame) :=
    handle_handles
  show Move calm a (ProcessAdapter.setConnection _ i _)
  generalize { a with sinkHint := true : ProcessAdapter }.handle (a.connectionAt i) context frame
    = handled at hhandles
  cases hhandles with
  | same posts routes post =>
    exact .still (by rw [posts_setConnection, posts]; exact posts_set_self post) routes
  | released route posts routes post =>
    exact .released hi route (by rw [posts_setConnection, posts, post]; rfl) routes
  | welcomed announces posts routes post =>
    exact .welcomed hi (fun hquiet => hcalm hquiet _ announces)
      (by rw [posts_setConnection, posts, post]; rfl) routes

/-- What a step does is a chain of moves, and calm ones if the step is orderly. -/
theorem Wired.step_moves (h : a.Wired) (s : AdapterStep) :
    Relation.ReflTransGen (Move (a.Orderly options s)) a (a.step options s).2 := by
  cases s with
  | attach prepared now => exact h.attach_moves _ _ _
  | dispatch request sending now =>
    show Relation.ReflTransGen _ a (a.dispatch request sending now).2.2
    unfold dispatch
    dsimp only
    split
    · exact .single (.still rfl rfl)
    split
    · exact .single (.still rfl rfl)
    next i hpick =>
    obtain ⟨hi, -, hroom⟩ := pickWorker_some hpick
    -- the count is a move of its own, before the route
    have hcounted : Wired { a with dispatched := a.dispatched + 1 } := ⟨h.index, h.routed⟩
    refine .head (b := { a with dispatched := a.dispatched + 1 }) (.still rfl rfl) ?_
    exact hcounted.dispatchTo_moves hi hroom (fun horderly => horderly i hpick) now
  | cancel fence sending =>
    show Relation.ReflTransGen _ a (a.cancel fence sending).2
    unfold cancel
    dsimp only
    split
    · exact .refl
    next i _ =>
    split
    · exact .refl
    · refine .single (.still ?_ rfl)
      exact posts_setConnection.trans (posts_set_self ((a.connectionAt i).sendTo_post sending))
  | frame i frame context =>
    show Relation.ReflTransGen _ a (if _ then _ else _ : List SinkCall × ProcessAdapter).2
    split
    · next hopen => exact .single (frame_moves hopen.1 _ frame fun horderly => horderly)
    · exact .refl
  | fail i failure =>
    show Relation.ReflTransGen _ a (if _ then _ else _ : List SinkCall × ProcessAdapter).2
    split
    · exact .single (.still (posts_setConnection.trans (posts_set_self rfl)) rfl)
    · exact .refl
  | drop i detail now =>
    refine .head (b := { a with sinkHint := true }) (.still rfl rfl) (.single ?_)
    exact .dropped (fun horderly => horderly) rfl
  | ask i fences sending now =>
    show Relation.ReflTransGen _ a (ask sending now ([], a, {}) (i, fences)).2.1
    have hpost := (a.connectionAt i).sendTo_post sending
    -- the worker is dropped when it does not take the request
    have hcalm : a.Orderly options (.ask i fences sending now) →
        ((a.connectionAt i).sendTo sending).1.isOk = false → a.Lossless i := id
    unfold ask
    dsimp only
    generalize (a.connectionAt i).sendTo sending = sent at hpost hcalm
    split
    · exact .refl
    split
    · exact .single (.still (posts_setConnection.trans (posts_set_self hpost)) rfl)
    · next hsent =>
      refine Move.of_drop hpost ?_ ?_
        (fun horderly => hcalm horderly (Bool.eq_false_iff.2 hsent)) _ _ _
      · rfl
      · rfl
  | collect call => exact .single (.still rfl rfl)
  | closeAll => exact .single (.cleared rfl rfl)

/-! ## Routes over whole runs -/

/-- A move leaves the adapter wired. -/
theorem Wired.move (h : a.Wired) (hmove : Move calm a b) : b.Wired := by
  -- a connection that is replaced keeps its own index
  have hindex : ∀ {p : Post} {i : Nat}, b.posts = a.posts.set i p → i < a.connections.length →
      p.index = (a.connectionAt i).index → ∀ j, j < b.connections.length →
      (b.connectionAt j).index = j := fun {p i} hposts hi hp j hj => by
    rw [length_of_set hposts] at hj
    rw [show (b.connectionAt j).index = _ from congrArg Post.index (post_of_set hposts hi j)]
    split
    · next hji => rw [hp, h.index i hi, hji]
    · exact h.index j hj
  cases hmove with
  | still posts routes =>
    constructor
    · intro i hi
      rw [length_of_posts posts] at hi
      rw [show (b.connectionAt i).index = _ from congrArg Post.index (post_connectionAt posts i)]
      exact h.index i hi
    · intro attempt i hroute
      rw [length_of_posts posts]
      exact h.routed attempt i (routes ▸ hroute)
  | attached posts index inFlight routes =>
    have hlength : b.connections.length = a.connections.length + 1 := by
      simpa [ProcessAdapter.posts] using congrArg List.length posts
    constructor
    · intro i hi
      rw [show (b.connectionAt i).index = _ from congrArg Post.index (post_of_append posts i hi)]
      split
      · next hlast => rw [hlast]; exact index
      · exact h.index i (by omega)
    · intro attempt i hroute
      have := h.routed attempt i (routes ▸ hroute)
      omega
  | @routed i attempt inside room fresh posts routes =>
    refine ⟨hindex posts inside rfl, fun other j hroute => ?_⟩
    rw [length_of_set posts]
    rw [routes] at hroute
    by_cases hother : other = attempt
    · rw [hother, AList.lookup_insert, h.index i inside] at hroute
      exact Option.some.inj hroute ▸ inside
    · rw [AList.lookup_insert_ne hother] at hroute
      exact h.routed other j hroute
  | @released i attempt inside route posts routes =>
    refine ⟨hindex posts inside rfl, fun other j hroute => ?_⟩
    rw [length_of_set posts]
    rw [routes] at hroute
    by_cases hother : other = attempt
    · rw [hother, AList.lookup_erase] at hroute
      cases hroute
    · rw [AList.lookup_erase_ne hother] at hroute
      exact h.routed other j hroute
  | welcomed inside unrouted posts routes =>
    refine ⟨hindex posts inside rfl, fun attempt j hroute => ?_⟩
    rw [length_of_set posts]
    exact h.routed attempt j (routes ▸ hroute)
  | dropped lossless result =>
    rw [result]
    exact h.drop _ _ _ _
  | cleared connections routes =>
    constructor
    · intro i hi
      rw [connections] at hi
      exact absurd hi (Nat.not_lt_zero i)
    · intro attempt i hroute
      rw [routes, AList.lookup_empty] at hroute
      cases hroute

/-- So does every chain of them. -/
theorem Wired.moves (h : a.Wired) (hmoves : Relation.ReflTransGen (Move calm) a b) : b.Wired := by
  induction hmoves with
  | refl => exact h
  | tail _ hmove ih => exact ih.move hmove

theorem Wired.step (h : a.Wired) (options : ProcessAdapterOptions) (s : AdapterStep) :
    (a.step options s).2.Wired := h.moves (h.step_moves s)

theorem Wired.empty : ({} : ProcessAdapter).Wired :=
  ⟨fun _ hi => absurd hi (Nat.not_lt_zero _), fun _ _ hroute => nomatch hroute⟩

/-- After every run each connection stands where it says and each route leads to one; and wherever
that is so, dropping any of them leads the attempts of the others to the same objects as before, and
its own to nothing or to a usable connection of the same worker and incarnation: no attempt that is
still routed changes its worker or its incarnation. -/
theorem routes_survive_drops (options : ProcessAdapterOptions) :
    (∀ steps, (({} : ProcessAdapter).run options steps).Wired)
      ∧ ∀ (a : ProcessAdapter) (index : Nat) (detail : Bytes) (told : Bool) (now : Timestamp),
        a.Wired → index < a.connections.length →
        let b := (a.dropConnection index detail told now).2
        b.Wired ∧ DropKeeps a b index
          ∧ ∀ attempt c d, a.carrier attempt = some c → b.carrier attempt = some d →
            d.worker = c.worker ∧ d.incarnation = c.incarnation := by
  constructor
  · intro steps
    exact run_keeps (P := Wired) _ options (fun _ s h => h.step options s) .empty steps
  · intro a index detail told now h hindex
    have hkeeps := h.drop_keeps hindex detail told now
    exact ⟨h.drop _ _ _ _, hkeeps, fun attempt c d hc hd => hkeeps.same_worker hc hd⟩

/-- A worker that reconnected, and an attempt still routed to its first connection. -/
def reconnected : ProcessAdapter where
  connections := [{ helloReceived := true }, { helloReceived := true, index := 1, serial := 1 }]
  attemptRoutes := AList.singleton .nil 0

theorem reconnected_keeps_route :
    DropKeeps reconnected (reconnected.dropConnection 0 [] true {}).2 0
      ∧ (reconnected.dropConnection 0 [] true {}).2.attemptRoutes.lookup .nil = some 0 := by
  have hwired : reconnected.Wired := by
    constructor
    · rintro (_ | _ | i) hi
      · rfl
      · rfl
      · exact absurd hi (by simp [reconnected])
    · intro attempt i hroute
      by_cases hattempt : attempt = .nil
      · rw [hattempt] at hroute
        exact Option.some.inj hroute ▸ Nat.zero_lt_two
      · cases (AList.lookup_insert_ne (s := ∅) hattempt).symm.trans hroute
  exact ⟨((routes_survive_drops {}).2 reconnected 0 [] true {} hwired (by decide)).2.1, by decide⟩

end ProcessAdapter

end RolloutFabric
