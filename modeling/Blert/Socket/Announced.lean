import Blert.Socket.ServerManager

/-!
A server shuts down only as announced.

Each timer that ends in clients being closed was set for a time that has been announced, and is gone
when that is cancelled. Where an override or a cancellation leaves such a timer behind, or where
something is scheduled while a cancelled server is about to return to running, this does not hold.
-/

namespace Blert.Socket

namespace ServerManager

variable {m : ServerManager}

/-! ### What holds between callbacks -/

/-- The countdown of the scheduled shutdown has not begun. -/
def CountdownAhead (m : ServerManager) : Prop :=
  ∃ timer ∈ m.timers, timer.callback = .enterShutdownPending ∧ m.shutdownTimer = some timer.id

/-- Clients have been closed only when a time that had been announced had come, the status has a
shutdown time where it must and none where it may not, and none was found missing. -/
structure AsAnnounced (m : ServerManager) : Prop where
  closings : ∀ closing ∈ m.closings, ∃ time ∈ closing.announced, time ≤ closing.time
  pending : m.status = .shutdownPending ∨ m.status = .draining → m.shutdownTime ≠ none
  running : m.status = .running → m.shutdownTime = none ∨ m.CountdownAhead
  notThrown : m.thrown = false

/-- What is said of the timers, and of the status but where that is running. -/
structure Inv (m : ServerManager) : Prop where
  closings : ∀ closing ∈ m.closings, ∃ time ∈ closing.announced, time ≤ closing.time
  pending : m.status = .shutdownPending ∨ m.status = .draining → m.shutdownTime ≠ none
  notThrown : m.thrown = false
  announced : ∀ time, m.shutdownTime = some time → time ∈ m.announced
  draining : m.drain ≠ none → m.shutdownTime ≠ none
  countdowns : ∀ timer ∈ m.timers, timer.callback = .enterShutdownPending →
    ∀ time, m.shutdownTime = some time → time - m.now ≤ TIMEOUT_MAX
  shutdowns : ∀ timer ∈ m.timers, timer.callback = .shutdown →
    ∃ time ∈ m.announced, time ≤ timer.due
  closes : ∀ timer ∈ m.timers, timer.callback = .closeAllClients →
    ∃ time ∈ m.announced, time ≤ m.now
  returns : ∀ timer ∈ m.timers, timer.callback = .becomeRunning → m.shutdownTime = none

def RunningFree (m : ServerManager) : Prop :=
  m.status = .running → m.shutdownTime = none ∨ m.CountdownAhead

lemma Inv.asAnnounced (h : Inv m) (hrunning : RunningFree m) : AsAnnounced m :=
  ⟨h.closings, h.pending, hrunning, h.notThrown⟩

/-! ### Timers -/

structure MaySet (m : ServerManager) (callback : Callback) (due : ℤ) : Prop where
  countdown : callback = .enterShutdownPending →
    ∀ time, m.shutdownTime = some time → time - m.now ≤ TIMEOUT_MAX
  shutdown : callback = .shutdown → ∃ time ∈ m.announced, time ≤ due
  close : callback = .closeAllClients → ∃ time ∈ m.announced, time ≤ m.now
  return' : callback = .becomeRunning → m.shutdownTime = none

lemma Inv.add (h : Inv m) {callback : Callback} {due : ℤ} (hset : MaySet m callback due) :
    Inv { m with
      timers := m.timers ++ [⟨m.nextTimer, due, callback⟩]
      nextTimer := m.nextTimer + 1 } where
  closings := h.closings
  pending := h.pending
  notThrown := h.notThrown
  announced := h.announced
  draining := h.draining
  countdowns := by
    intro timer ht hc
    rcases List.mem_append.mp ht with ht | ht
    · exact h.countdowns timer ht hc
    · rw [List.mem_singleton.mp ht] at hc
      exact hset.countdown hc
  shutdowns := by
    intro timer ht hc
    rcases List.mem_append.mp ht with ht | ht
    · exact h.shutdowns timer ht hc
    · rw [List.mem_singleton.mp ht] at hc ⊢
      exact hset.shutdown hc
  closes := by
    intro timer ht hc
    rcases List.mem_append.mp ht with ht | ht
    · exact h.closes timer ht hc
    · rw [List.mem_singleton.mp ht] at hc
      exact hset.close hc
  returns := by
    intro timer ht hc
    rcases List.mem_append.mp ht with ht | ht
    · exact h.returns timer ht hc
    · rw [List.mem_singleton.mp ht] at hc
      exact hset.return' hc

lemma Inv.setTimeout (h : Inv m) {callback : Callback} {delay : ℤ}
    (hset : MaySet m callback (m.now + timerDelay delay)) : Inv (m.setTimeout callback delay) :=
  h.add hset

lemma Inv.drop (h : Inv m) {timers : List Timer} (hsub : timers.Sublist m.timers) :
    Inv { m with timers } where
  closings := h.closings
  pending := h.pending
  notThrown := h.notThrown
  announced := h.announced
  draining := h.draining
  countdowns timer ht := h.countdowns timer (hsub.subset ht)
  shutdowns timer ht := h.shutdowns timer (hsub.subset ht)
  closes timer ht := h.closes timer (hsub.subset ht)
  returns timer ht := h.returns timer (hsub.subset ht)

lemma Inv.handles (h : Inv m) (shutdownTimer shutdownMessageTimer : Option ℕ) :
    Inv { m with shutdownTimer, shutdownMessageTimer } :=
  ⟨h.closings, h.pending, h.notThrown, h.announced, h.draining, h.countdowns,
    h.shutdowns, h.closes, h.returns⟩

lemma Inv.updateStatus (h : Inv m) (status : ServerStatus)
    (hstatus : status = .shutdownPending ∨ status = .draining → m.shutdownTime ≠ none) :
    Inv (m.updateStatus status) :=
  ⟨h.closings, hstatus, h.notThrown, h.announced, h.draining, h.countdowns,
    h.shutdowns, h.closes, h.returns⟩

lemma Inv.messages (h : Inv m) (messages : List (ServerStatus × Option ℤ)) :
    Inv { m with messages } :=
  ⟨h.closings, h.pending, h.notThrown, h.announced, h.draining, h.countdowns,
    h.shutdowns, h.closes, h.returns⟩

lemma Inv.serverStatusMessage (h : Inv m) : ∃ message, m.serverStatusMessage = some message := by
  unfold ServerManager.serverStatusMessage
  split
  · rename_i hs
    obtain ⟨time, ht⟩ := Option.ne_none_iff_exists'.mp (h.pending (.inl hs))
    exact ⟨_, by rw [ht]; rfl⟩
  · rename_i hs
    obtain ⟨time, ht⟩ := Option.ne_none_iff_exists'.mp (h.pending (.inr hs))
    exact ⟨_, by rw [ht]; rfl⟩
  · exact ⟨_, rfl⟩

lemma Inv.notify (h : Inv m) : ∃ messages,
    m.notifyAllClientsOfState = some { m with messages } := by
  obtain ⟨message, hm⟩ := h.serverStatusMessage
  exact ⟨_, by rw [notifyAllClientsOfState, hm]; rfl⟩

/-! ### Shutdown -/

lemma le_timerDelay {time now : ℤ} (h : time - now ≤ TIMEOUT_MAX) :
    time ≤ now + timerDelay (time - now) := by
  unfold timerDelay
  split_ifs with hd <;> omega

lemma Inv.scheduleNextShutdownMessage (h : Inv m) : ∃ m',
    m.scheduleNextShutdownMessage = some m' ∧ Inv m' ∧ m'.status = m.status ∧
      m'.shutdownTime = m.shutdownTime ∧ (m.CountdownAhead → m'.CountdownAhead) := by
  unfold ServerManager.scheduleNextShutdownMessage
  split_ifs with hs
  · exact ⟨_, rfl, h.handles m.shutdownTimer none, rfl, rfl, id⟩
  · obtain ⟨time, ht⟩ := Option.ne_none_iff_exists'.mp (h.pending (.inl (not_not.mp hs)))
    have hinterval : ∃ interval, m.nextShutdownMessageInterval = some interval :=
      ⟨_, by rw [nextShutdownMessageInterval, ht]; rfl⟩
    obtain ⟨interval, hi⟩ := hinterval
    by_cases hzero : interval = 0
    · refine ⟨{ m with shutdownMessageTimer := none }, ?_, h.handles m.shutdownTimer none, rfl,
        rfl, id⟩
      rw [hi]
      change (if interval = 0 then _ else _) = _
      rw [if_pos hzero]
      rfl
    · refine ⟨{ m.setTimeout .shutdownMessage (time - interval - m.now) with
        shutdownMessageTimer := some m.nextTimer }, ?_, ?_, rfl, rfl, ?_⟩
      · rw [hi, ht]
        change (if interval = 0 then _ else _) = _
        rw [if_neg hzero]
        rfl
      · have hset : MaySet m .shutdownMessage (m.now + timerDelay (time - interval - m.now)) :=
          ⟨nofun, nofun, nofun, nofun⟩
        exact (h.setTimeout hset).handles m.shutdownTimer (some m.nextTimer)
      · rintro ⟨timer, hmem, hc⟩
        exact ⟨timer, List.mem_append_left _ hmem, hc⟩

lemma Inv.enterShutdownPending (h : Inv m)
    (hbound : ∀ time, m.shutdownTime = some time → time - m.now ≤ TIMEOUT_MAX) : ∃ m',
    m.enterShutdownPending = some m' ∧ Inv m' ∧
      (m.shutdownTime = none ∧ m' = m ∨ m'.status = .shutdownPending) := by
  unfold ServerManager.enterShutdownPending
  split
  · rename_i hnone
    exact ⟨m, rfl, h, .inl ⟨hnone, rfl⟩⟩
  · rename_i time ht
    have hset : MaySet m .shutdown (m.now + timerDelay (time - m.now)) :=
      ⟨nofun, fun _ => ⟨time, h.announced time ht, le_timerDelay (hbound time ht)⟩, nofun, nofun⟩
    have hset' := (h.setTimeout hset).handles (some m.nextTimer) m.shutdownMessageTimer
    have hstatus := hset'.updateStatus .shutdownPending
      (fun _ => Option.ne_none_iff_exists'.mpr ⟨time, ht⟩)
    obtain ⟨m', hm', hinv, hs, -, -⟩ := hstatus.scheduleNextShutdownMessage
    exact ⟨m', hm', hinv, .inr hs⟩

lemma Inv.announce (h : Inv m) (time : ℤ)
    (hreturn : ∀ timer ∈ m.timers, timer.callback ≠ .becomeRunning)
    (hshutdown : ∀ timer ∈ m.timers, timer.callback = .shutdown → time ≤ timer.due)
    (hcountdown : ∀ timer ∈ m.timers, timer.callback = .enterShutdownPending →
      time - m.now ≤ TIMEOUT_MAX) : Inv (m.announce time) where
  closings := h.closings
  pending _ := by simp [ServerManager.announce]
  notThrown := h.notThrown
  announced := by
    intro t ht
    obtain rfl : time = t := by simpa [ServerManager.announce] using ht
    exact List.mem_append_right _ (List.mem_singleton.mpr rfl)
  draining _ := by simp [ServerManager.announce]
  countdowns := by
    intro timer hmem hc t ht
    obtain rfl : time = t := by simpa [ServerManager.announce] using ht
    exact hcountdown timer hmem hc
  shutdowns timer hmem hc :=
    ⟨time, List.mem_append_right _ (List.mem_singleton.mpr rfl), hshutdown timer hmem hc⟩
  closes := by
    intro timer hmem hc
    -- A time that has come stays announced.
    obtain ⟨t, ht, hle⟩ := h.closes timer hmem hc
    exact ⟨t, List.mem_append_left _ (List.mem_filter.mpr ⟨ht, decide_eq_true hle⟩), hle⟩
  returns timer hmem hc := absurd hc (hreturn timer hmem)

lemma RunningFree.of_ne (h : m.status ≠ .running) : RunningFree m := fun hs => absurd hs h

lemma Inv.scheduleShutdown (h : Inv m) (hrunning : RunningFree m) {timeFromNow : Option ℤ}
    {force : Bool} (hmeets : (m.hasPendingShutdown ∧ ¬force) ∨
      (∀ timer ∈ m.timers, timer.callback ≠ .becomeRunning) ∧
      shutdownDuration timeFromNow ≤ TIMEOUT_MAX ∧
      ∀ timer ∈ m.timers, timer.callback = .shutdown →
        m.now + shutdownDuration timeFromNow ≤ timer.due) :
    ∃ m', m.scheduleShutdown timeFromNow force = some m' ∧ Inv m' ∧ RunningFree m' := by
  unfold ServerManager.scheduleShutdown
  split_ifs with hpending
  · exact ⟨m, rfl, h, hrunning⟩
  · obtain ⟨hreturn, hmax, hshutdown⟩ := hmeets.resolve_left hpending
    have hbound : m.now + shutdownDuration timeFromNow - m.now ≤ TIMEOUT_MAX := by omega
    have hann := h.announce (m.now + shutdownDuration timeFromNow) hreturn hshutdown
      (fun _ _ _ => hbound)
    have hall : ∀ time, (m.announce (m.now + shutdownDuration timeFromNow)).shutdownTime =
        some time → time - m.now ≤ TIMEOUT_MAX := by
      intro time ht
      obtain rfl : _ = time := Option.some.inj ht
      exact hbound
    dsimp only
    split_ifs with hlong
    · have hset : MaySet (m.announce (m.now + shutdownDuration timeFromNow))
          .enterShutdownPending
          (m.now + timerDelay (shutdownDuration timeFromNow - 60 * 60 * 1000)) :=
        ⟨fun _ => hall, nofun, nofun, nofun⟩
      refine ⟨_, rfl, (hann.setTimeout hset).handles (some m.nextTimer) m.shutdownMessageTimer,
        fun _ => .inr ?_⟩
      exact ⟨_, List.mem_append_right _ (List.mem_singleton.mpr rfl), rfl, rfl⟩
    · obtain ⟨m', hm', hinv, hcase⟩ := hann.enterShutdownPending hall
      refine ⟨m', hm', hinv, RunningFree.of_ne ?_⟩
      rcases hcase with ⟨hnone, -⟩ | hs
      · exact absurd hnone (by simp [ServerManager.announce])
      · rw [hs]
        decide

lemma Inv.cancel (h : Inv m) (hdrain : m.drain = none)
    (hshutdown : ∀ timer ∈ m.timers, timer.callback ≠ .shutdown)
    (hclose : ∀ timer ∈ m.timers, timer.callback ≠ .closeAllClients) : ∃ m',
    (do let m ← ({ m with shutdownTime := none, announced := [] }.updateStatus
          .shutdownCanceled).notifyAllClientsOfState
        return m.setTimeout .becomeRunning 10000) = some m' ∧ Inv m' ∧ RunningFree m' := by
  have hinv : Inv ({ m with shutdownTime := none, announced := [] }.updateStatus
      .shutdownCanceled) :=
    { closings := h.closings
      pending := by rintro (hs | hs) <;> cases hs
      notThrown := h.notThrown
      announced := nofun
      draining := fun hd => absurd hdrain hd
      countdowns := nofun
      shutdowns := fun timer hmem hc => absurd hc (hshutdown timer hmem)
      closes := fun timer hmem hc => absurd hc (hclose timer hmem)
      returns := fun _ _ _ => rfl }
  obtain ⟨messages, hm⟩ := hinv.notify
  refine ⟨_, by rw [hm]; rfl, (hinv.messages messages).setTimeout ?_, fun _ => .inl rfl⟩
  exact ⟨nofun, nofun, nofun, fun _ => rfl⟩

lemma Inv.cancelShutdown (h : Inv m) (hrunning : RunningFree m)
    (hmeets : m.shutdownTime = none ∨ m.drain = none ∧
      (∀ timer ∈ m.timers, timer.callback = .shutdown → m.shutdownTimer = some timer.id) ∧
      ∀ timer ∈ m.timers, timer.callback ≠ .closeAllClients) :
    ∃ m', m.cancelShutdown = some m' ∧ Inv m' ∧ RunningFree m' := by
  unfold ServerManager.cancelShutdown
  cases htime : m.shutdownTime with
  | none =>
    rw [if_pos (by simp [hasPendingShutdown, htime])]
    exact ⟨m, rfl, h, hrunning⟩
  | some time =>
    obtain ⟨hdrain, hshutdown, hclose⟩ := hmeets.resolve_left (by rw [htime]; simp)
    have hsub : (((m.timers.filter fun t => some t.id ≠ m.shutdownTimer).filter
        fun t => some t.id ≠ m.shutdownMessageTimer)).Sublist m.timers :=
      List.filter_sublist.trans List.filter_sublist
    rw [if_neg (by simp [hasPendingShutdown, htime])]
    refine ((h.drop hsub).handles none none).cancel hdrain ?_ ?_
    · intro timer hmem hc
      have hkept := (List.mem_filter.mp (List.mem_filter.mp hmem).1).2
      exact absurd (hshutdown timer (hsub.subset hmem) hc).symm (of_decide_eq_true hkept)
    · exact fun timer hmem => hclose timer (hsub.subset hmem)

lemma Inv.shutdown (h : Inv m) (htime : ∃ time ∈ m.announced, time ≤ m.now) :
    ∃ m', m.shutdown = some m' ∧ Inv m' ∧ RunningFree m' := by
  unfold ServerManager.shutdown
  have hstatus := h.updateStatus .shutdownImminent (by rintro (hs | hs) <;> cases hs)
  obtain ⟨messages, hm⟩ := hstatus.notify
  refine ⟨_, by rw [hm]; rfl, (hstatus.messages messages).setTimeout ?_, RunningFree.of_ne ?_⟩
  · exact ⟨nofun, nofun, fun _ => htime, nofun⟩
  · exact (by decide : ServerStatus.shutdownImminent ≠ .running)

lemma Inv.closeAllClients (h : Inv m) (htime : 0 < m.clients → ∃ time ∈ m.announced, time ≤ m.now) :
    Inv m.closeAllClients := by
  unfold ServerManager.closeAllClients
  split_ifs with hclients
  · exact h
  · refine ⟨?_, h.pending, h.notThrown, h.announced, h.draining, h.countdowns,
      h.shutdowns, h.closes, h.returns⟩
    intro closing hmem
    rcases List.mem_append.mp hmem with hmem | hmem
    · exact h.closings closing hmem
    · rw [List.mem_singleton.mp hmem]
      exact htime (Nat.pos_of_ne_zero hclients)

/-! ### Drain -/

lemma Inv.startDrain (h : Inv m) (hrunning : RunningFree m) {gracePeriod settleDelay : Option ℤ}
    (hmeets : (m.drain.isSome ∨ m.status = .offline) ∨
      (∀ timer ∈ m.timers, timer.callback ≠ .becomeRunning) ∧
      (∀ timer ∈ m.timers, timer.callback = .shutdown → m.shutdownTimer ≠ some timer.id →
        m.drainDeadline gracePeriod settleDelay ≤ timer.due) ∧
      ∀ timer ∈ m.timers, timer.callback = .enterShutdownPending →
        m.shutdownTimer ≠ some timer.id →
          m.drainDeadline gracePeriod settleDelay - m.now ≤ TIMEOUT_MAX) :
    Inv (m.startDrain gracePeriod settleDelay) ∧
      RunningFree (m.startDrain gracePeriod settleDelay) := by
  unfold ServerManager.startDrain
  split_ifs with hignored
  · exact ⟨h, hrunning⟩
  · obtain ⟨hreturn, hshutdown, hcountdown⟩ := hmeets.resolve_left hignored
    have hsub : (((m.timers.filter fun t => some t.id ≠ m.shutdownTimer).filter
        fun t => some t.id ≠ m.shutdownMessageTimer)).Sublist m.timers :=
      List.filter_sublist.trans List.filter_sublist
    have hkept : ∀ timer ∈ (((m.timers.filter fun t => some t.id ≠ m.shutdownTimer).filter
        fun t => some t.id ≠ m.shutdownMessageTimer)), m.shutdownTimer ≠ some timer.id :=
      fun timer hmem heq =>
        of_decide_eq_true (List.mem_filter.mp (List.mem_filter.mp hmem).1).2 heq.symm
    have hann := ((h.drop hsub).handles none none).announce
      (m.drainDeadline gracePeriod settleDelay)
      (fun timer hmem => hreturn timer (hsub.subset hmem))
      (fun timer hmem hc => hshutdown timer (hsub.subset hmem) hc (hkept timer hmem))
      (fun timer hmem hc => hcountdown timer (hsub.subset hmem) hc (hkept timer hmem))
    have hquiet : ∀ {m' : ServerManager} {due : ℤ}, MaySet m' .runDrain due :=
      ⟨nofun, nofun, nofun, nofun⟩
    have hset := @Inv.setTimeout _ hann _ (settleDelay.getD DEFAULT_DRAIN_SETTLE_MS) hquiet
    refine ⟨?_, RunningFree.of_ne (by decide : ServerStatus.draining ≠ .running)⟩
    exact ⟨hset.closings, fun _ => nofun, hset.notThrown, hset.announced,
      fun _ => nofun, hset.countdowns, hset.shutdowns, hset.closes, hset.returns⟩

lemma Inv.cancelDrain (h : Inv m) (hrunning : RunningFree m)
    (hmeets : m.drain = none ∨ ∀ timer ∈ m.timers,
      timer.callback ≠ .shutdown ∧ timer.callback ≠ .closeAllClients) :
    ∃ m', m.cancelDrain = some m' ∧ Inv m' ∧ RunningFree m' := by
  unfold ServerManager.cancelDrain
  split
  · exact ⟨m, rfl, h, hrunning⟩
  · rename_i drain hdrain
    have hmeets' := hmeets.resolve_left (by rw [hdrain]; simp)
    have hsub : (m.timers.filter fun t => some t.id ≠ drain.settleTimer).Sublist m.timers :=
      List.filter_sublist
    have hdrop := h.drop hsub
    have hnone : Inv { m.clearTimeout drain.settleTimer with drain := none } :=
      ⟨hdrop.closings, hdrop.pending, hdrop.notThrown, hdrop.announced,
        fun hd => absurd rfl hd, hdrop.countdowns, hdrop.shutdowns, hdrop.closes, hdrop.returns⟩
    exact hnone.cancel rfl (fun timer hmem => (hmeets' timer (hsub.subset hmem)).1)
      (fun timer hmem => (hmeets' timer (hsub.subset hmem)).2)

lemma Inv.drainClosed (h : Inv m) : Inv m.drainClosed ∧ RunningFree m.drainClosed := by
  have hstatus := h.updateStatus .offline (by rintro (hs | hs) <;> cases hs)
  exact ⟨⟨hstatus.closings, hstatus.pending, hstatus.notThrown, hstatus.announced,
    hstatus.draining, hstatus.countdowns, hstatus.shutdowns, hstatus.closes, hstatus.returns⟩,
    RunningFree.of_ne (by decide : ServerStatus.offline ≠ .running)⟩

lemma RunningFree.setTimeout (h : RunningFree m) {callback : Callback} {delay : ℤ} :
    RunningFree (m.setTimeout callback delay) := by
  intro hs
  refine (h hs).imp id ?_
  rintro ⟨timer, hmem, hc⟩
  exact ⟨timer, List.mem_append_left _ hmem, hc⟩

lemma Inv.completeDrain (h : Inv m) (hrunning : RunningFree m)
    (htime : 0 < m.clients → ∃ time ∈ m.announced, time ≤ m.now) :
    Inv m.completeDrain ∧ RunningFree m.completeDrain := by
  unfold ServerManager.completeDrain
  dsimp only
  split_ifs with hclients
  · refine ⟨(h.closeAllClients htime).add ⟨nofun, nofun, nofun, nofun⟩, ?_⟩
    have hclosed : m.closeAllClients =
        { m with closings := m.closings ++ [⟨m.now, m.announced⟩] } := if_neg hclients.ne'
    rw [hclosed]
    intro hs
    refine (hrunning hs).imp id ?_
    rintro ⟨timer, hmem, hc⟩
    exact ⟨timer, List.mem_append_left _ hmem, hc⟩
  · exact h.drainClosed

lemma Inv.drainTick (h : Inv m) (hrunning : RunningFree m) :
    ∃ m', m.drainTick = some m' ∧ Inv m' ∧ RunningFree m' := by
  unfold ServerManager.drainTick
  split
  · exact ⟨m, rfl, h, hrunning⟩
  · rename_i drain hdrain
    obtain ⟨time, ht⟩ := Option.ne_none_iff_exists'.mp (h.draining (by rw [hdrain]; simp))
    have hnone : Inv { m with drain := none } :=
      ⟨h.closings, h.pending, h.notThrown, h.announced, fun hd => absurd rfl hd, h.countdowns,
        h.shutdowns, h.closes, h.returns⟩
    have hdrained : m.hasDrained = some (decide (m.clients = 0 ∨ time ≤ m.now)) := by
      unfold ServerManager.hasDrained
      split_ifs with hclients
      · simp [hclients]
      · simp [hclients, ht]
    rw [hdrained]
    by_cases hover : m.clients = 0 ∨ time ≤ m.now
    · obtain ⟨hinv, hfree⟩ := hnone.completeDrain hrunning fun hclients =>
        ⟨time, h.announced time ht, hover.resolve_left hclients.ne'⟩
      refine ⟨_, ?_, hinv, hfree⟩
      rw [decide_eq_true hover]
      rfl
    · refine ⟨m.setTimeout .drainTick DRAIN_TICK_MS, ?_, h.setTimeout ?_, hrunning.setTimeout⟩
      · rw [decide_eq_false hover]
        rfl
      · exact ⟨nofun, nofun, nofun, nofun⟩

lemma Inv.runDrain (h : Inv m) (hrunning : RunningFree m) :
    ∃ m', m.runDrain = some m' ∧ Inv m' ∧ RunningFree m' := by
  unfold ServerManager.runDrain
  split
  · exact ⟨m, rfl, h, hrunning⟩
  · rename_i drain hdrain
    have hsettled : Inv { m with drain := some { settleTimer := none } } :=
      ⟨h.closings, h.pending, h.notThrown, h.announced,
        fun _ => h.draining (by rw [hdrain]; simp), h.countdowns, h.shutdowns, h.closes, h.returns⟩
    obtain ⟨messages, hm⟩ := hsettled.notify
    obtain ⟨m', hm', hinv⟩ := (hsettled.messages messages).drainTick hrunning
    exact ⟨m', by rw [hm]; exact hm', hinv⟩

/-! ### Runs -/

lemma Inv.fire (h : Inv m) (hrunning : RunningFree m) {timer : Timer} (hmem : timer ∈ m.timers)
    (hdue : timer.due ≤ m.now) : ∃ m',
      { m with timers := m.timers.erase timer }.callback timer.callback = some m' ∧ Inv m' ∧
        RunningFree m' := by
  have hdrop := h.drop (List.erase_sublist (a := timer) (l := m.timers))
  -- The countdown that is ahead is that of another timer.
  have hfree : timer.callback ≠ .enterShutdownPending →
      RunningFree { m with timers := m.timers.erase timer } := by
    intro hne hs
    refine (hrunning hs).imp id ?_
    rintro ⟨ahead, hahead, hc, hhandle⟩
    refine ⟨ahead, (List.mem_erase_of_ne fun heq => hne ?_).mpr hahead, hc, hhandle⟩
    rw [← heq]
    exact hc
  unfold ServerManager.callback
  cases hc : timer.callback with
  | enterShutdownPending =>
    obtain ⟨m', hm', hinv, hcase⟩ := hdrop.enterShutdownPending (h.countdowns timer hmem hc)
    refine ⟨m', hm', hinv, ?_⟩
    rcases hcase with ⟨hnone, rfl⟩ | hs
    · exact fun _ => .inl hnone
    · exact RunningFree.of_ne (by rw [hs]; decide)
  | shutdown =>
    obtain ⟨time, ht, hle⟩ := h.shutdowns timer hmem hc
    exact hdrop.shutdown ⟨time, ht, hle.trans hdue⟩
  | closeAllClients =>
    have hclosed := hdrop.closeAllClients fun _ => h.closes timer hmem hc
    refine ⟨_, rfl, hclosed.updateStatus .offline (by rintro (hs | hs) <;> cases hs), ?_⟩
    exact RunningFree.of_ne (by decide : ServerStatus.offline ≠ .running)
  | becomeRunning =>
    refine ⟨_, rfl, hdrop.updateStatus .running (by rintro (hs | hs) <;> cases hs),
      fun _ => .inl ?_⟩
    exact h.returns timer hmem hc
  | shutdownMessage =>
    obtain ⟨messages, hm⟩ := hdrop.notify
    obtain ⟨m', hm', hinv, hs, ht, hahead⟩ :=
      (hdrop.messages messages).scheduleNextShutdownMessage
    refine ⟨m', ?_, hinv, fun hrun => ?_⟩
    · dsimp only
      rw [hm]
      exact hm'
    · exact (hfree (by rw [hc]; decide) (hs ▸ hrun)).imp (fun hnone => ht.trans hnone) hahead
  | runDrain => exact hdrop.runDrain (hfree (by rw [hc]; decide))
  | drainTick => exact hdrop.drainTick (hfree (by rw [hc]; decide))
  | drainClosed => exact ⟨_, rfl, hdrop.drainClosed⟩

/-- A call of an administrator leaves no timer of an earlier schedule behind that would act on a
later one: nothing is scheduled for later than a timer that is not cleared waits for, nor farther
ahead than a timer reaches, nor while a cancelled server is about to return to running; and where a
shutdown is cancelled, no drain is in progress, and no other shutdown has come or been left
behind. -/
def Meets (m : ServerManager) : Act → Prop
  | .scheduleShutdown timeFromNow force => (m.hasPendingShutdown ∧ ¬force) ∨
      (∀ timer ∈ m.timers, timer.callback ≠ .becomeRunning) ∧
      shutdownDuration timeFromNow ≤ TIMEOUT_MAX ∧
      ∀ timer ∈ m.timers, timer.callback = .shutdown →
        m.now + shutdownDuration timeFromNow ≤ timer.due
  | .cancelShutdown => m.shutdownTime = none ∨ m.drain = none ∧
      (∀ timer ∈ m.timers, timer.callback = .shutdown → m.shutdownTimer = some timer.id) ∧
      ∀ timer ∈ m.timers, timer.callback ≠ .closeAllClients
  | .startDrain gracePeriod settleDelay => (m.drain.isSome ∨ m.status = .offline) ∨
      (∀ timer ∈ m.timers, timer.callback ≠ .becomeRunning) ∧
      (∀ timer ∈ m.timers, timer.callback = .shutdown → m.shutdownTimer ≠ some timer.id →
        m.drainDeadline gracePeriod settleDelay ≤ timer.due) ∧
      ∀ timer ∈ m.timers, timer.callback = .enterShutdownPending →
        m.shutdownTimer ≠ some timer.id →
          m.drainDeadline gracePeriod settleDelay - m.now ≤ TIMEOUT_MAX
  | .cancelDrain => m.drain = none ∨ ∀ timer ∈ m.timers,
      timer.callback ≠ .shutdown ∧ timer.callback ≠ .closeAllClients
  | _ => True

instance (m : ServerManager) (a : Act) : Decidable (Meets m a) := by
  induction a using Act.casesOn <;> (unfold Meets; infer_instance)

def Started (m : ServerManager) : Prop :=
  m.status = .running ∧ m.shutdownTime = none ∧ m.drain = none ∧ m.timers = [] ∧
    m.thrown = false ∧ m.announced = [] ∧ m.closings = []

instance (m : ServerManager) : Decidable (Started m) := by
  unfold Started
  infer_instance

lemma inv_started (h : Started m) : Inv m ∧ RunningFree m := by
  obtain ⟨hstatus, htime, hdrain, htimers, hthrown, -, hclosings⟩ := h
  refine ⟨⟨?_, ?_, hthrown, ?_, fun hd => absurd hdrain hd, ?_, ?_, ?_, ?_⟩, fun _ => .inl htime⟩
  · rw [hclosings]
    nofun
  · rw [hstatus]
    rintro (hs | hs) <;> cases hs
  · rw [htime]
    nofun
  all_goals
    rw [htimers]
    nofun

lemma inv_step (a : Act) (h : Inv m ∧ RunningFree m) (henabled : system.Enabled m a)
    (hmeets : Meets m a) : Inv (system.next m a) ∧ RunningFree (system.next m a) := by
  suffices ∃ m', m.act a = some m' ∧ Inv m' ∧ RunningFree m' by
    obtain ⟨m', hm', hinv⟩ := this
    rw [show system.next m a = m' by rw [system]; dsimp only; rw [hm']; rfl]
    exact hinv
  obtain ⟨hinv, hrunning⟩ := h
  cases a with
  | scheduleShutdown timeFromNow force => exact hinv.scheduleShutdown hrunning hmeets
  | cancelShutdown => exact hinv.cancelShutdown hrunning hmeets
  | startDrain gracePeriod settleDelay => exact ⟨_, rfl, hinv.startDrain hrunning hmeets⟩
  | cancelDrain => exact hinv.cancelDrain hrunning hmeets
  | fire timer => exact hinv.fire hrunning henabled.2.1 henabled.2.2
  | join =>
    have hjoined : Inv { m with clients := m.clients + 1 } :=
      ⟨hinv.closings, hinv.pending, hinv.notThrown, hinv.announced, hinv.draining,
        hinv.countdowns, hinv.shutdowns, hinv.closes, hinv.returns⟩
    obtain ⟨message, hm⟩ := hjoined.serverStatusMessage
    change ∃ m', m.handleNewClient = some m' ∧ _
    unfold handleNewClient
    dsimp only
    rw [hm]
    split_ifs
    · exact ⟨_, rfl, hjoined.messages _, hrunning⟩
    · exact ⟨_, rfl, hjoined, hrunning⟩
  | leave =>
    exact ⟨_, rfl, ⟨hinv.closings, hinv.pending, hinv.notThrown, hinv.announced, hinv.draining,
      hinv.countdowns, hinv.shutdowns, hinv.closes, hinv.returns⟩, hrunning⟩
  | elapse ms =>
    refine ⟨_, rfl, ⟨hinv.closings, hinv.pending, hinv.notThrown, hinv.announced, hinv.draining,
      ?_, hinv.shutdowns, ?_, hinv.returns⟩, hrunning⟩
    · intro timer hmem hc time ht
      have := hinv.countdowns timer hmem hc time ht
      dsimp only
      omega
    · intro timer hmem hc
      obtain ⟨time, ht, hle⟩ := hinv.closes timer hmem hc
      exact ⟨time, ht, by dsimp only; omega⟩

/-- **A server shuts down only as announced**, in every run that leaves no timer behind. -/
theorem shuts_down_as_announced (h : system.Reachable Started Meets m) : AsAnnounced m := by
  have hinv := TransitionSystem.Reachable.invariant (I := fun m => Inv m ∧ RunningFree m)
    (fun m => inv_started) (fun m a hinv henabled hmeets => inv_step a hinv henabled hmeets) h
  exact hinv.1.asAnnounced hinv.2

/-- A shutdown that is cancelled, and a drain that ends with its clients closed. -/
def cancelledAndDrained : List Act :=
  [.scheduleShutdown (some 60000) false, .cancelShutdown, .elapse 10000,
    .fire ⟨2, 10000, .becomeRunning⟩, .startDrain (some 5000) (some 1000), .elapse 1000,
    .fire ⟨3, 11000, .runDrain⟩, .elapse 5000, .fire ⟨4, 16000, .drainTick⟩]

theorem cancelledAndDrained_asAnnounced :
    AsAnnounced (system.run { clients := 2 } cancelledAndDrained) ∧
      (system.run { clients := 2 } cancelledAndDrained).closings = [⟨16000, [16000]⟩] := by
  have hstarted : Started { clients := 2 } := by decide
  exact ⟨shuts_down_as_announced ((TransitionSystem.Reachable.init hstarted).run (by decide)),
    by decide⟩

/-- A shutdown that is two hours ahead has a time, and the server is running. -/
theorem running_with_shutdownTime : ¬∀ m, system.Reachable Started (fun _ _ => True) m →
    m.status = .running → m.shutdownTime = none := by
  intro h
  have hstarted : Started {} := by decide
  have henabled : system.Enabled {} (.scheduleShutdown (some 7200000) false) := rfl
  have hreached := h _ ((TransitionSystem.Reachable.init hstarted).step henabled trivial)
  exact absurd hreached (by decide)

end ServerManager

end Blert.Socket
