import EnergyDisplay.MeteredSeriesProofs

/-! What the broker retains of an hour only grows. From the retained summary over the
publications on their way and the queued snapshot to the dashboard, nothing shows
less than what lies before it; where a restart breaks that order nothing is
published until the restore has brought it back. -/
namespace EnergyDisplay

open Mqtt Runs

def Mqtt.SummarySnapshot.hourly (snapshot : SummarySnapshot ℚ) : Series → HourlyData ℚ
  | .solarProduction => snapshot.solarProduction
  | .gridImport => snapshot.gridImport
  | .gridExport => snapshot.gridExport

theorem Mqtt.SummarySnapshot.summary_hourly (snapshot : SummarySnapshot ℚ) (series : Series) :
    snapshot.summary.hourly series = (snapshot.hourly series).skipped := by
  cases series <;> rfl

theorem Tasks.snapshot_hourly (tasks : Tasks ℚ) (timestamp : Timestamp) (series : Series) :
    (tasks.snapshot timestamp).hourly series = tasks.dashboard.hourly series := by
  cases series <;> rfl

/-- Only the new update comes into the queue. -/
theorem Mqtt.mem_queueUpdate {updates : Updates ℚ} {update other : Update ℚ}
    (member : other ∈ (queueUpdate updates update).items) : other ∈ updates.items ∨ other = update := by
  obtain ⟨_, items⟩ | ⟨oldest, others, full, _, items⟩ := queueUpdate_cases updates update
  · simpa [items] using member
  · rw [items] at member
    rw [full]
    simp only [List.mem_append, List.mem_singleton] at member
    exact member.imp_left (List.mem_cons_of_mem _)

/-- A live update behind the restored summary leaves it the last one. -/
theorem Mqtt.SummaryLast.queueUpdate_live {summary : DailySummary ℚ} {updates : Updates ℚ} {update : Update ℚ}
    (last : SummaryLast summary updates.items) (live : update.isDailySummary = false) :
    SummaryLast summary (queueUpdate updates update).items := by
  obtain ⟨_, items⟩ | ⟨oldest, others, full, _, items⟩ := queueUpdate_cases updates update
  · rw [items]
    exact last.push_live live
  · rw [full] at last
    rw [items]
    exact last.2.push_live live

theorem Mqtt.SummaryLast.queueUpdate_summary (summary : DailySummary ℚ) (updates : Updates ℚ) :
    SummaryLast summary (queueUpdate updates (.dailySummary summary)).items := by
  obtain ⟨_, items⟩ | ⟨oldest, others, full, _, items⟩ := queueUpdate_cases updates (.dailySummary summary)
  all_goals
    rw [items]
    exact push_summary _

namespace Household

variable {date : SummaryDate} {series : Series} {device after : Tasks ℚ} {retained : Option (DailySummary ℚ)}
  {inFlight : List (SummarySnapshot ℚ)} {k : Fin 24} {meter reading next bar more : ℚ} {hour later : ℕ}
  {clock : Clock}

/-! ## The invariant -/

/-- The bar is no less than what is retained for the date and what is on its way. -/
structure Above (date : SummaryDate) (series : Series) (k : Fin 24) (retained : Option (DailySummary ℚ))
    (inFlight : List (SummarySnapshot ℚ)) (bar : ℚ) : Prop where
  retained : ∀ summary, retained = some summary → summary.date = date → (summary.hourly series).values k ≤ bar
  inFlight : ∀ snapshot ∈ inFlight, (snapshot.hourly series).values k ≤ bar

/-- A snapshot of the date, of a bar that the meter has counted. -/
structure Sound (date : SummaryDate) (series : Series) (k : Fin 24) (reading : ℚ) (hour : ℕ)
    (snapshot : SummarySnapshot ℚ) : Prop where
  dated : snapshot.timestamp.utcDate = date
  backed : (snapshot.hourly series).Backed k reading hour

/-- Everything shows a bar that the meter had counted when it had the reading that
the dashboard was given last. -/
structure Counted (date : SummaryDate) (series : Series) (k : Fin 24) (device : Tasks ℚ)
    (retained : Option (DailySummary ℚ)) (inFlight : List (SummarySnapshot ℚ)) (meter : ℚ) (hour : ℕ)
    (reading : ℚ) : Prop where
  shown : (device.dashboard.hourly series).Metered date k reading hour
  climbs : Climbs series reading meter device.updates.items
  waiting : ∀ summary, .dailySummary summary ∈ device.updates.items → summary.date = date →
    (summary.hourly series).Backed k reading hour
  retained : ∀ summary, retained = some summary → summary.date = date →
    (summary.hourly series).Backed k reading hour
  queued : ∀ update ∈ device.publications.items, Sound date series k reading hour update.snapshot
  publishing : ∀ update, device.phase = .publishing update → Sound date series k reading hour update.snapshot
  inFlight : ∀ snapshot ∈ inFlight, Sound date series k reading hour snapshot

/-- What the device may publish is above what has been published, and no restore
is to come. -/
structure Trusted (date : SummaryDate) (series : Series) (k : Fin 24) (device : Tasks ℚ)
    (retained : Option (DailySummary ℚ)) (inFlight : List (SummarySnapshot ℚ)) : Prop where
  shown : Above date series k retained inFlight ((device.dashboard.hourly series).values k)
  queued : ∀ update ∈ device.publications.items,
    Above date series k retained inFlight ((update.snapshot.hourly series).values k)
  live : ∀ summary, .dailySummary summary ∈ device.updates.items → summary.date ≠ date

/-- The invariant. -/
structure Kept (date : SummaryDate) (series : Series) (k : Fin 24) (device : Tasks ℚ)
    (retained : Option (DailySummary ℚ)) (inFlight : List (SummarySnapshot ℚ)) (meter : ℚ) (hour : ℕ) :
    Prop where
  counted : ∃ reading, Counted date series k device retained inFlight meter hour reading
  queued : ∀ update ∈ device.publications.items,
    (update.snapshot.hourly series).values k ≤ (device.dashboard.hourly series).values k
  publishing : ∀ update, device.phase = .publishing update →
    (update.snapshot.hourly series).values k ≤ (device.dashboard.hourly series).values k
  ordered : inFlight.Pairwise fun first second =>
    (first.hourly series).values k ≤ (second.hourly series).values k
  stored : ∀ snapshot ∈ inFlight, ∀ summary, retained = some summary → summary.date = date →
    (summary.hourly series).values k ≤ (snapshot.hourly series).values k
  dated : ∀ summary, .dailySummary summary ∈ device.updates.items → summary.date = date →
    ∃ stored, retained = some stored ∧ stored.date = date
  released : device.phase.guard = some false → Trusted date series k device retained inFlight
  awaiting : device.phase.guard = some true → inFlight = [] ∧
    ∃ summary, retained = some summary ∧ summary.date = date ∧
      SummaryLast summary device.updates.items ∧
      ∀ update ∈ device.publications.items, update.summaryReceivedAt.isSome →
        Trusted date series k device retained inFlight
  restoring : device.phase = .restoring → inFlight = []

theorem Above.mono (above : Above date series k retained inFlight bar) (grown : bar ≤ more) :
    Above date series k retained inFlight more where
  retained summary held today := (above.retained summary held today).trans grown
  inFlight snapshot member := (above.inFlight snapshot member).trans grown

theorem Sound.mono {snapshot : SummarySnapshot ℚ} (sound : Sound date series k reading hour snapshot)
    (grown : reading ≤ next) (passed : hour ≤ later) : Sound date series k next later snapshot :=
  ⟨sound.dated, sound.backed.mono grown passed⟩

/-! ## The steps of the device -/

/-- What the two tasks share has not moved, and the session goes on or ends. -/
theorem Kept.frame (kept : Kept date series k device retained inFlight meter hour)
    (updates : after.updates = device.updates) (publications : after.publications = device.publications)
    (dashboard : after.dashboard = device.dashboard)
    (guard : after.phase.guard = device.phase.guard ∨ after.phase.guard = none)
    (publishing : ∀ update, after.phase = .publishing update → device.phase = .publishing update)
    (restoring : after.phase = .restoring → device.phase = .restoring) :
    Kept date series k after retained inFlight meter hour := by
  have trusted (trusted : Trusted date series k device retained inFlight) :
      Trusted date series k after retained inFlight := by
    obtain ⟨shown, queued, live⟩ := trusted
    exact ⟨dashboard ▸ shown, publications ▸ queued, updates ▸ live⟩
  obtain ⟨reading, counted⟩ := kept.counted
  constructor
  · exact ⟨reading, dashboard ▸ counted.shown, updates ▸ counted.climbs, updates ▸ counted.waiting,
      counted.retained, publications ▸ counted.queued,
      fun update phase => counted.publishing update (publishing update phase), counted.inFlight⟩
  · rw [publications, dashboard]
    exact kept.queued
  · rw [dashboard]
    exact fun update phase => kept.publishing update (publishing update phase)
  · exact kept.ordered
  · exact kept.stored
  · rw [updates]
    exact kept.dated
  · intro released
    rcases guard with same | gone
    · exact trusted (kept.released (same ▸ released))
    · simp [gone] at released
  · intro awaiting
    rcases guard with same | gone
    · obtain ⟨nothing, summary, held, today, last, marked⟩ := kept.awaiting (same ▸ awaiting)
      rw [updates, publications]
      exact ⟨nothing, summary, held, today, last, fun update member mark => trusted (marked update member mark)⟩
    · simp [gone] at awaiting
  · exact fun phase => kept.restoring (restoring phase)

/-- A live update is queued. -/
theorem Kept.push (kept : Kept date series k device retained inFlight meter hour) {update : Update ℚ}
    (live : update.isDailySummary = false)
    (grows : ∀ reading, update.meter series = some reading → meter ≤ reading) :
    Kept date series k { device with updates := queueUpdate device.updates update } retained inFlight
      ((update.meter series).getD meter) hour := by
  have old {summary : DailySummary ℚ}
      (member : .dailySummary summary ∈ (queueUpdate device.updates update).items) :
      .dailySummary summary ∈ device.updates.items := by
    rcases mem_queueUpdate member with old | rfl
    · exact old
    · cases live
  have trusted (trusted : Trusted date series k device retained inFlight) :
      Trusted date series k { device with updates := queueUpdate device.updates update } retained inFlight :=
    ⟨trusted.shown, trusted.queued, fun summary member => trusted.live summary (old member)⟩
  obtain ⟨reading, counted⟩ := kept.counted
  refine { kept with
    counted := ⟨reading, { counted with
      climbs := counted.climbs.queueUpdate grows
      waiting := fun summary member => counted.waiting summary (old member) }⟩
    dated := fun summary member => kept.dated summary (old member)
    released := fun released => trusted (kept.released released)
    awaiting := ?_ }
  intro awaiting
  obtain ⟨nothing, summary, held, today, last, marked⟩ := kept.awaiting awaiting
  exact ⟨nothing, summary, held, today, last.queueUpdate_live live,
    fun update member mark => trusted (marked update member mark)⟩

/-- The display task wakes up. -/
theorem Trusted.displays (trusted : Trusted date series k device retained inFlight)
    (grown : (device.dashboard.hourly series).values k ≤
      ((device.displayBatch clock).dashboard.hourly series).values k) {timestamp : Timestamp}
    (utc : clock.utcNow = some timestamp) :
    Trusted date series k (device.displayBatch clock) retained inFlight := by
  have shown := trusted.shown.mono grown
  refine ⟨shown, fun update member => ?_, ?_⟩
  · obtain old | ⟨fresh, -⟩ := Tasks.displayBatch_queued utc member
    · exact trusted.queued update old
    · rw [fresh, Tasks.snapshot_hourly]
      exact shown
  · rw [(Tasks.displayBatch_fields device clock).1]
    simp

/-- Where no summary of the date waits, the dashboard only shows more. -/
theorem Counted.grows {now : LocalDateTime}
    (counted : Counted date series k device retained inFlight meter hour reading)
    (metered : series ≠ .solarProduction) (falls : FallsOn date now) (passed : hour ≤ now.hour)
    (shown : clock.now = some now)
    (baselines : FromBaselines series k clock.now device.dashboard device.updates.items)
    (live : ∀ summary, .dailySummary summary ∈ device.updates.items → summary.date ≠ date) :
    (device.dashboard.hourly series).values k ≤
      ((device.displayBatch clock).dashboard.hourly series).values k := by
  rw [(Tasks.displayBatch_fields device clock).2.2, shown]
  rw [shown] at baselines
  exact (Dashboard.metered_applyAll counted.shown metered falls passed counted.climbs baselines
    counted.waiting).2 _ le_rfl fun summary member today => absurd today (live summary member)

/-- After a wake-up everything has been counted by now. -/
theorem Counted.displays {now : LocalDateTime} {timestamp : Timestamp}
    (counted : Counted date series k device retained inFlight meter hour reading)
    (metered : series ≠ .solarProduction) (falls : FallsOn date now) (passed : hour ≤ now.hour)
    (shown : clock.now = some now) (utc : clock.utcNow = some timestamp) (stamped : timestamp.utcDate = date)
    (baselines : FromBaselines series k clock.now device.dashboard device.updates.items) :
    Counted date series k (device.displayBatch clock) retained inFlight meter now.hour meter := by
  obtain ⟨updates, -, dashboard⟩ := Tasks.displayBatch_fields device clock
  obtain ⟨phase, -, -⟩ := Tasks.displayBatch_frame device clock
  have above := counted.climbs.le
  have drained : ((device.displayBatch clock).dashboard.hourly series).Metered date k meter now.hour := by
    rw [dashboard, shown]
    rw [shown] at baselines
    exact (Dashboard.metered_applyAll counted.shown metered falls passed counted.climbs baselines
      counted.waiting).1
  refine ⟨drained, ?_, ?_, ?_, ?_, ?_, ?_⟩
  · rw [updates]
    exact le_refl meter
  · rw [updates]
    simp
  · exact fun summary held today => (counted.retained summary held today).mono above passed
  · intro update member
    obtain old | ⟨fresh, -⟩ := Tasks.displayBatch_queued utc member
    · exact (counted.queued update old).mono above passed
    · rw [fresh]
      exact ⟨stamped, by rw [Tasks.snapshot_hourly]; exact drained.backed⟩
  · rw [phase]
    exact fun update publishing => (counted.publishing update publishing).mono above passed
  · exact fun snapshot member => (counted.inFlight snapshot member).mono above passed

/-- A queued summary is taken for one of today if it is of the date. -/
theorem isCurrentSummary_iff {now : LocalDateTime} (falls : FallsOn date now) {update : Update ℚ} :
    update.isCurrentSummary (some now) = true ↔
      ∃ summary, update = .dailySummary summary ∧ summary.date = date := by
  cases update with
  | dailySummary summary => simp [Update.isCurrentSummary, falls.isFor_iff]
  | _ => simp [Update.isCurrentSummary]

theorem Kept.displays {now : LocalDateTime} {timestamp : Timestamp}
    (kept : Kept date series k device retained inFlight meter hour)
    (metered : series ≠ .solarProduction) (falls : FallsOn date now) (passed : hour ≤ now.hour)
    (shown : clock.now = some now) (utc : clock.utcNow = some timestamp) (stamped : timestamp.utcDate = date)
    (baselines : FromBaselines series k clock.now device.dashboard device.updates.items) :
    Kept date series k (device.displayBatch clock) retained inFlight meter now.hour := by
  obtain ⟨updates, -, dashboard⟩ := Tasks.displayBatch_fields device clock
  obtain ⟨phase, -, -⟩ := Tasks.displayBatch_frame device clock
  obtain ⟨reading, counted⟩ := kept.counted
  have grows := counted.grows metered falls passed shown baselines
  have trusted (trusted : Trusted date series k device retained inFlight) :
      Trusted date series k (device.displayBatch clock) retained inFlight :=
    trusted.displays (grows trusted.live) utc
  refine ⟨⟨meter, counted.displays metered falls passed shown utc stamped baselines⟩, ?_, ?_, kept.ordered,
    kept.stored, ?_, ?_, ?_, ?_⟩
  · intro update member
    rw [Tasks.displayBatch_publications device utc] at member
    split at member
    · obtain rfl := List.mem_singleton.mp member
      rw [Tasks.snapshot_hourly]
    · next nothing =>
      -- Neither a live update nor a summary of the date was queued.
      simp only [Bool.or_eq_true, not_or, List.any_eq_true, not_exists, not_and, shown,
        isCurrentSummary_iff falls] at nothing
      exact (kept.queued update member).trans
        (grows fun summary queued today => nothing.2 _ queued summary rfl today)
  · rw [phase]
    intro update publishing
    have live := (kept.released (by rw [publishing]; rfl)).live
    exact (kept.publishing update publishing).trans (grows live)
  · rw [updates]
    simp
  · rw [phase]
    exact fun released => trusted (kept.released released)
  · rw [phase]
    intro awaiting
    obtain ⟨nothing, summary, held, today, last, marked⟩ := kept.awaiting awaiting
    refine ⟨nothing, summary, held, today, updates ▸ trivial, fun update member mark => ?_⟩
    obtain old | ⟨fresh, origin⟩ := Tasks.displayBatch_queued utc member
    · exact trusted (marked update old mark)
    · obtain ⟨other, queued, current⟩ | ⟨previous, queued, mark⟩ := origin mark
      · -- The restored summary has been drained.
        have above : Above date series k retained inFlight
            (((device.displayBatch clock).dashboard.hourly series).values k) := by
          refine ⟨?_, by simp [nothing]⟩
          rintro _ rfl _
          obtain rfl := Option.some.inj held
          rw [dashboard, shown]
          rw [shown] at baselines
          exact Dashboard.restored_applyAll counted.shown metered falls passed counted.climbs baselines
            counted.waiting last today ⟨other, queued, current_isDailySummary current⟩
        refine ⟨above, fun other queued => ?_, by simp [updates]⟩
        rw [only_queued member, List.mem_singleton] at queued
        rw [queued, fresh, Tasks.snapshot_hourly]
        exact above
      · exact trusted (marked previous queued mark)
  · rw [phase]
    exact kept.restoring

/-- A snapshot that the guard lets through comes from a device to be trusted. -/
theorem Kept.trusted (kept : Kept date series k device retained inFlight meter hour) {awaiting : Bool}
    {update : SummaryUpdate ℚ} (serving : device.phase = .serving awaiting)
    (queued : update ∈ device.publications.items)
    (marked : awaiting = true → update.summaryReceivedAt.isSome) :
    Trusted date series k device retained inFlight := by
  cases awaiting with
  | false => exact kept.released (by rw [serving]; rfl)
  | true =>
    obtain ⟨-, -, -, -, -, trusted⟩ := kept.awaiting (by rw [serving]; rfl)
    exact trusted update queued (marked rfl)

/-- The queue is emptied, and the guard stays up or falls over a device to be
trusted. -/
theorem Kept.vacates (kept : Kept date series k device retained inFlight meter hour) {awaiting : Bool}
    {publications : SummaryPublications ℚ} (vacant : publications.items = [])
    (trusted : awaiting = false → Trusted date series k device retained inFlight)
    (guard : awaiting = true → device.phase.guard = some true) (last : Option Timestamp) :
    Kept date series k
      { device with publications := publications, phase := .serving awaiting, lastSummaryUpdate := last }
      retained inFlight meter hour := by
  obtain ⟨reading, counted⟩ := kept.counted
  refine { kept with
    counted := ⟨reading, { counted with queued := by simp [vacant], publishing := by simp }⟩
    queued := by simp [vacant]
    publishing := by simp
    released := ?_
    awaiting := ?_
    restoring := by simp }
  · intro released
    have fallen := trusted (by simpa [Phase.guard] using released)
    exact { fallen with queued := by simp [vacant] }
  · intro up
    obtain ⟨nothing, summary, held, today, last, -⟩ := kept.awaiting (guard (by simpa [Phase.guard] using up))
    exact ⟨nothing, summary, held, today, last, by simp [vacant]⟩

/-- The snapshot that is published goes on its way behind what it is above. -/
theorem Kept.calls (kept : Kept date series k device retained inFlight meter hour)
    {update : SummaryUpdate ℚ} {rest : SummaryPublications ℚ} (taken : device.publications.items = update :: rest.items)
    (trusted : Trusted date series k device retained inFlight) (last : Option Timestamp)
    (calls : List (PublishCall ℚ)) (outbound : Option OutboundPublish) :
    Kept date series k
      { device with
        publications := rest
        phase := .publishing update
        lastSummaryUpdate := last
        calls := calls
        outboundPublishes := outbound }
      retained (inFlight ++ [update.snapshot]) meter hour := by
  have vacant := nothing_behind taken
  have queued : update ∈ device.publications.items := by simp [taken]
  obtain ⟨reading, counted⟩ := kept.counted
  have sound := counted.queued update queued
  have shown := kept.queued update queued
  have above := trusted.queued update queued
  refine { kept with
    counted := ⟨reading, { counted with
      queued := by simp [vacant]
      publishing := ?_
      inFlight := ?_ }⟩
    queued := by simp [vacant]
    publishing := ?_
    ordered := ?_
    stored := ?_
    released := ?_
    awaiting := by simp [Phase.guard]
    restoring := by simp }
  · rintro _ ⟨⟩
    exact sound
  · exact List.forall_mem_append.mpr ⟨counted.inFlight, by simpa using sound⟩
  · rintro _ ⟨⟩
    exact shown
  · refine List.pairwise_append.mpr ⟨kept.ordered, by simp, ?_⟩
    rintro snapshot member _ last
    rw [List.mem_singleton.mp last]
    exact above.inFlight snapshot member
  · refine List.forall_mem_append.mpr ⟨kept.stored, ?_⟩
    rintro _ last
    rw [List.mem_singleton.mp last]
    exact above.retained
  · intro _
    refine ⟨⟨trusted.shown.retained, ?_⟩, by simp [vacant], trusted.live⟩
    exact List.forall_mem_append.mpr ⟨trusted.shown.inFlight, by simpa using shown⟩

theorem Kept.returns (kept : Kept date series k device retained inFlight meter hour) {update : SummaryUpdate ℚ}
    (publishing : device.phase = .publishing update) (last : Option Timestamp)
    (published : List (SummarySnapshot ℚ)) :
    Kept date series k
      { device with phase := .serving false, lastSummaryUpdate := last, published := published }
      retained inFlight meter hour := by
  have trusted := kept.released (by rw [publishing]; rfl)
  obtain ⟨reading, counted⟩ := kept.counted
  exact { kept with
    counted := ⟨reading, { counted with publishing := by simp }⟩
    publishing := by simp
    released := fun _ => ⟨trusted.shown, trusted.queued, trusted.live⟩
    awaiting := by simp [Phase.guard]
    restoring := by simp }

theorem Kept.requeues (kept : Kept date series k device retained inFlight meter hour) {update : SummaryUpdate ℚ}
    (publishing : device.phase = .publishing update) :
    Kept date series k
      { device with phase := .offline, publications := queueSummaryUpdate device.publications update }
      retained inFlight meter hour := by
  have shown := kept.publishing update publishing
  obtain ⟨reading, counted⟩ := kept.counted
  have sound := counted.publishing update publishing
  have queued (other : SummaryUpdate ℚ)
      (member : other ∈ (queueSummaryUpdate device.publications update).items) :
      other.snapshot = update.snapshot := by
    rw [queueSummaryUpdate_items, List.mem_singleton] at member
    rw [member]
  exact { kept with
    counted := ⟨reading, { counted with
      queued := fun other member => (queued other member) ▸ sound
      publishing := by simp }⟩
    queued := fun other member => (queued other member) ▸ shown
    publishing := by simp
    released := by simp [Phase.guard]
    awaiting := by simp [Phase.guard]
    restoring := by simp }

/-- The meter goes on, and so does the clock. -/
theorem Kept.mono (kept : Kept date series k device retained inFlight meter hour) (grown : meter ≤ next)
    (passed : hour ≤ later) : Kept date series k device retained inFlight next later := by
  obtain ⟨reading, counted⟩ := kept.counted
  refine { kept with counted := ⟨reading, ?_⟩ }
  exact
    { shown := counted.shown.mono le_rfl passed
      climbs := counted.climbs.raise grown
      waiting := fun summary member today => (counted.waiting summary member today).mono le_rfl passed
      retained := fun summary held today => (counted.retained summary held today).mono le_rfl passed
      queued := fun update member => (counted.queued update member).mono le_rfl passed
      publishing := fun update phase => (counted.publishing update phase).mono le_rfl passed
      inFlight := fun snapshot member => (counted.inFlight snapshot member).mono le_rfl passed }

/-- A new connection forgets what is on its way and clears the queue. -/
theorem Kept.connects (kept : Kept date series k device retained inFlight meter hour) :
    Kept date series k { device with phase := .restoring, publications := .empty } retained [] meter hour := by
  obtain ⟨reading, counted⟩ := kept.counted
  exact
    { counted := ⟨reading, { counted with queued := by simp, publishing := by simp, inFlight := by simp }⟩
      queued := by simp
      publishing := by simp
      ordered := .nil
      stored := by simp
      dated := kept.dated
      released := by simp [Phase.guard]
      awaiting := by simp [Phase.guard]
      restoring := fun _ => rfl }

/-- Where nothing of the date is retained there is nothing to restore. -/
theorem Kept.released_unretained (kept : Kept date series k device retained inFlight meter hour)
    (restoring : device.phase = .restoring)
    (unretained : ∀ summary, retained = some summary → summary.date ≠ date) :
    Trusted date series k device retained inFlight := by
  have above (bar : ℚ) : Above date series k retained inFlight bar :=
    ⟨fun summary held today => absurd today (unretained summary held), by simp [kept.restoring restoring]⟩
  refine ⟨above _, fun _ _ => above _, fun summary queued today => ?_⟩
  obtain ⟨stored, held, dated⟩ := kept.dated summary queued today
  exact unretained stored held dated

theorem Kept.times_out (kept : Kept date series k device retained inFlight meter hour)
    (restoring : device.phase = .restoring)
    (unretained : ∀ summary, retained = some summary → summary.date ≠ date) :
    Kept date series k { device with phase := .unsubscribing false } retained inFlight meter hour := by
  obtain ⟨shown, queued, live⟩ := kept.released_unretained restoring unretained
  obtain ⟨reading, counted⟩ := kept.counted
  exact { kept with
    counted := ⟨reading, { counted with publishing := by simp }⟩
    publishing := by simp
    released := fun _ => ⟨shown, queued, live⟩
    awaiting := by simp [Phase.guard]
    restoring := by simp }

/-- The restore: the retained summary is queued, and the guard goes up if it is of
the date. -/
theorem Kept.delivers {now : LocalDateTime} {timestamp : Timestamp} {summary : DailySummary ℚ}
    (kept : Kept date series k device retained inFlight meter hour) (restoring : device.phase = .restoring)
    (held : retained = some summary) (falls : FallsOn date now) (shown : clock.now = some now)
    (utc : clock.utcNow = some timestamp) :
    Kept date series k (device.step (.receives (.dailySummary summary), clock)) retained inFlight meter hour := by
  have current : clock.now.all summary.isFor = summary.isFor now := by rw [shown]; rfl
  have received : device.step (.receives (.dailySummary summary), clock) =
      { device with
        updates := queueUpdate device.updates (.dailySummary summary)
        publications := .empty
        phase := .unsubscribing (summary.isFor now) } := by
    simp [Tasks.step, Tasks.receive, restoring, queueIncomingUpdate, clearSummaryPublications, current, utc]
  have queued {other : DailySummary ℚ}
      (member : .dailySummary other ∈ (queueUpdate device.updates (.dailySummary summary)).items) :
      .dailySummary other ∈ device.updates.items ∨ other = summary :=
    (mem_queueUpdate member).imp_right Update.dailySummary.inj
  obtain ⟨reading, counted⟩ := kept.counted
  have nothing := kept.restoring restoring
  rw [received]
  refine { kept with
    counted := ⟨reading, { counted with
      climbs := ?_
      waiting := ?_
      queued := by simp
      publishing := by simp }⟩
    queued := by simp
    publishing := by simp
    dated := ?_
    released := ?_
    awaiting := ?_
    restoring := by simp }
  · have climbs : Climbs series reading (((Update.dailySummary summary).meter series).getD meter)
        (queueUpdate device.updates (.dailySummary summary)).items :=
      counted.climbs.queueUpdate (by simp [Update.meter])
    exact climbs
  · intro other member today
    rcases queued member with old | rfl
    · exact counted.waiting other old today
    · exact counted.retained other held today
  · intro other member today
    rcases queued member with old | rfl
    · exact kept.dated other old today
    · exact ⟨other, held, today⟩
  · intro released
    have stale : summary.date ≠ date := by
      intro today
      simp [Phase.guard, (falls.isFor_iff summary).mpr today] at released
    have unretained : ∀ summary, retained = some summary → summary.date ≠ date := by
      intro other kept
      rwa [← Option.some.inj (held.symm.trans kept)]
    obtain ⟨shown, -, live⟩ := kept.released_unretained restoring unretained
    refine ⟨shown, by simp, fun other member => ?_⟩
    rcases queued member with old | rfl
    · exact live other old
    · exact stale
  · intro awaiting
    have today : summary.date = date := (falls.isFor_iff summary).mp (by simpa [Phase.guard] using awaiting)
    exact ⟨nothing, summary, held, today, .queueUpdate_summary summary device.updates, by simp⟩

theorem Kept.reboots (kept : Kept date series k device retained inFlight meter hour) :
    Kept date series k .boot retained inFlight meter hour := by
  obtain ⟨reading, counted⟩ := kept.counted
  have shown : ((Tasks.boot : Tasks ℚ).dashboard.hourly series).Metered date k reading hour := by
    cases series <;> exact HourlyData.default_metered counted.shown.nonneg
  refine { kept with
    counted := ⟨reading, shown, counted.climbs.le, ?_, counted.retained, ?_, ?_, counted.inFlight⟩
    queued := ?_
    publishing := ?_
    dated := ?_
    released := ?_
    awaiting := ?_
    restoring := ?_ }
  all_goals simp [Tasks.boot, Phase.guard]

/-- The oldest publication on its way is retained. -/
theorem Kept.stores {snapshot : SummarySnapshot ℚ} {rest : List (SummarySnapshot ℚ)}
    (kept : Kept date series k device retained (snapshot :: rest) meter hour) :
    Kept date series k device (some snapshot.summary) rest meter hour := by
  obtain ⟨reading, counted⟩ := kept.counted
  obtain ⟨here, ordered⟩ := List.pairwise_cons.mp kept.ordered
  obtain ⟨sound, others⟩ := List.forall_mem_cons.mp counted.inFlight
  have values (summary : DailySummary ℚ) (held : some snapshot.summary = some summary) :
      (summary.hourly series).values = (snapshot.hourly series).values := by
    rw [← Option.some.inj held, SummarySnapshot.summary_hourly]
    rfl
  have above {bar : ℚ} (above : Above date series k retained (snapshot :: rest) bar) :
      Above date series k (some snapshot.summary) rest bar := by
    refine ⟨fun summary held _ => ?_, fun other member => above.inFlight other (List.mem_cons_of_mem _ member)⟩
    rw [values summary held]
    exact above.inFlight snapshot List.mem_cons_self
  refine { kept with
    counted := ⟨reading, { counted with retained := ?_, inFlight := others }⟩
    ordered := ordered
    stored := ?_
    dated := fun _ _ _ => ⟨snapshot.summary, rfl, sound.dated⟩
    released := ?_
    awaiting := ?_
    restoring := ?_ }
  · rintro _ ⟨⟩ -
    rw [SummarySnapshot.summary_hourly]
    exact sound.backed.skipped
  · intro other member summary held _
    rw [values summary held]
    exact here other member
  · intro released
    obtain ⟨shown, queued, live⟩ := kept.released released
    exact ⟨above shown, fun update member => above (queued update member), live⟩
  · intro awaiting
    obtain ⟨nothing, -⟩ := kept.awaiting awaiting
    cases nothing
  · intro restoring
    cases kept.restoring restoring

/-! ## The steps of the household -/

/-- The invariant, of the whole. -/
def Orderly (date : SummaryDate) (series : Series) (k : Fin 24) (house : Household) : Prop :=
  Kept date series k house.device house.retained house.inFlight (house.meters series) house.hour

variable {house : Household} {happens : EnergyDisplay.Event ℚ}

theorem Ordinary.meters_le (ordinary : Ordinary date series k house (.device happens, clock)) :
    house.meters series ≤ house.metersAfter happens series := by
  unfold metersAfter
  split
  · next update =>
    cases reads : update.meter series with
    | none => exact le_rfl
    | some reading => exact ordinary.grows update rfl reading reads
  · exact le_rfl

theorem Ordinary.hour_le (ordinary : Ordinary date series k house (.device happens, clock)) :
    house.hour ≤ house.hourAfter happens clock := by
  unfold hourAfter
  split
  · next now shown => exact ordinary.forward rfl now shown
  · exact le_rfl

/-- A step of the device without a call: what it keeps at the old readings of meter
and clock it keeps at the new ones. -/
theorem Orderly.quiet (ordinary : Ordinary date series k house (.device happens, clock))
    (same : house.connected happens = house.inFlight)
    (calls : (house.device.step (happens, clock)).calls = house.device.calls)
    (kept : Kept date series k (house.device.step (happens, clock)) house.retained house.inFlight
      (house.meters series) house.hour) :
    Orderly date series k (house.step (.device happens, clock)) := by
  have later := kept.mono ordinary.meters_le ordinary.hour_le
  unfold Orderly step
  simp only [same, calls, List.drop_length, List.map_nil, List.append_nil]
  exact later

theorem Orderly.displays (orderly : Orderly date series k house) (metered : series ≠ .solarProduction)
    (ordinary : Ordinary date series k house (.device .displays, clock)) :
    Orderly date series k (house.step (.device .displays, clock)) := by
  obtain ⟨now, timestamp, shown, utc, falls, stamped⟩ := ordinary.clock (Or.inl rfl)
  have passed := ordinary.forward rfl now shown
  have kept : Kept date series k (house.device.displayBatch clock) house.retained house.inFlight
      (house.meters series) now.hour :=
    Kept.displays orderly metered falls passed shown utc stamped (ordinary.baselines rfl)
  have calls : (house.device.step (.displays, clock)).calls = house.device.calls :=
    (Tasks.displayBatch_frame house.device clock).2.1
  have same : house.connected .displays = house.inFlight := by
    unfold connected
    split
    · contradiction
    · rfl
  have hour : house.hourAfter .displays clock = now.hour := by
    change clock.now = some now at shown
    unfold hourAfter
    rw [shown]
  unfold Orderly step
  simp only [same, calls, List.drop_length, List.map_nil, List.append_nil, metersAfter, hour]
  exact kept

/-- A live update is queued. -/
theorem Orderly.pushes (orderly : Orderly date series k house) {update : Update ℚ}
    (ordinary : Ordinary date series k house (.device (.receives update), clock))
    (pushed : house.device.step (.receives update, clock) =
      { house.device with updates := queueUpdate house.device.updates update }) :
    Orderly date series k (house.step (.device (.receives update), clock)) := by
  have kept := Kept.push orderly (ordinary.broker update rfl) (ordinary.grows update rfl)
  have same : house.connected (.receives update) = house.inFlight := by
    unfold connected
    split
    · contradiction
    · rfl
  unfold Orderly step
  simp only [same, pushed, List.drop_length, List.map_nil, List.append_nil, metersAfter, hourAfter]
  exact kept

/-- A step of the device while a session restores. -/
theorem Orderly.restoring (orderly : Orderly date series k house) (metered : series ≠ .solarProduction)
    (restoring : house.device.phase = .restoring) (ordinary : Ordinary date series k house (.device happens, clock)) :
    Orderly date series k (house.step (.device happens, clock)) := by
  have same : house.connected happens = house.inFlight := by
    simp [connected, restoring]
  have stays (idle : house.device.step (happens, clock) = house.device) :
      Orderly date series k (house.step (.device happens, clock)) := by
    refine .quiet ordinary same (by rw [idle]) ?_
    rw [idle]
    exact orderly
  cases happens with
  | displays => exact orderly.displays metered ordinary
  | receives update =>
    have live := ordinary.broker update rfl
    refine orderly.pushes ordinary ?_
    cases update with
    | dailySummary => cases live
    | _ => simp [Tasks.step, Tasks.receive, restoring, queueIncomingUpdate, RestoreObservation.default]
  | restoreTimesOut =>
    have timedOut : house.device.step (.restoreTimesOut, clock) =
        { house.device with phase := .unsubscribing false } := by
      simp [Tasks.step, restoring, RestoreObservation.default]
    refine .quiet ordinary same (by rw [timedOut]) ?_
    rw [timedOut]
    exact Kept.times_out orderly restoring (ordinary.restores rfl)
  | fails =>
    have ended : house.device.step (.fails, clock) = { house.device with phase := .offline } := by
      simp [Tasks.step, Tasks.fail, restoring]
    refine .quiet ordinary same (by rw [ended]) ?_
    rw [ended]
    exact Kept.frame orderly rfl rfl rfl (Or.inr rfl) (by simp) (by simp)
  | acknowledges =>
    have cleared : house.device.step (.acknowledges, clock) =
        { house.device with outboundPublishes := none } := by
      simp [Tasks.step, restoring]
    refine .quiet ordinary same (by rw [cleared]) ?_
    rw [cleared]
    exact Kept.frame orderly rfl rfl rfl (Or.inl rfl) (fun _ same => same) (fun same => same)
  | pressesButton =>
    refine .quiet ordinary same rfl ?_
    exact Kept.frame orderly rfl rfl rfl (Or.inl rfl) (fun _ same => same) (fun same => same)
  | connects | unsubscribes | callReturns => exact stays (by simp [Tasks.step, Tasks.callReturn, restoring])
  | takesSummary | takesToggle =>
    exact stays (by simp [Tasks.step, Tasks.takeSummary, Tasks.takeToggle, restoring])

/-- A step of the device, restored or offline. -/
theorem Orderly.restored (orderly : Orderly date series k house) (metered : series ≠ .solarProduction)
    (restored : house.device.phase ≠ .restoring) (ordinary : Ordinary date series k house (.device happens, clock)) :
    Orderly date series k (house.step (.device happens, clock)) := by
  by_cases connects : happens = .connects
  · subst connects
    by_cases offline : house.device.phase = .offline
    · have connected : house.step (.device .connects, clock) =
          { house with
            device := { house.device with phase := .restoring, publications := .empty }
            inFlight := [] } := by
        have meters : house.metersAfter .connects = house.meters := rfl
        simp [step, Tasks.step, Household.connected, offline, clearSummaryPublications, meters, hourAfter]
      rw [connected]
      exact Kept.connects orderly
    · have idle : house.device.step (.connects, clock) = house.device := by
        cases phase : house.device.phase with
        | offline => exact absurd phase offline
        | _ => simp [Tasks.step, phase]
      refine .quiet ordinary (by simp [connected, offline]) (by rw [idle]) ?_
      rw [idle]
      exact orderly
  · have same : house.connected happens = house.inFlight := by
      unfold connected
      split
      · contradiction
      · rfl
    have happened := Tasks.step_in_session house.device happens clock restored connects
    generalize stepped : house.device.step (happens, clock) = after at happened
    cases happened with
    | idle _ _ idle =>
      refine .quiet ordinary same (by rw [stepped, idle.calls]) ?_
      rw [stepped]
      exact Kept.frame orderly idle.updates idle.publications idle.dashboard idle.guard idle.publishing
        fun restoring => absurd restoring idle.restored
    | pushes update awaiting live serving => exact orderly.pushes ordinary stepped
    | displays => exact orderly.displays metered ordinary
    | holdsBack encodes packetIdentifier held rest serving taken unmarked =>
      refine .quiet ordinary same (by rw [stepped]) ?_
      rw [stepped]
      exact Kept.vacates orderly (nothing_behind taken) (by simp) (fun _ => by rw [serving]; rfl) _
    | skips encodes packetIdentifier awaiting released rest last serving taken marked =>
      refine .quiet ordinary same (by rw [stepped]) ?_
      rw [stepped]
      have queued : released ∈ house.device.publications.items := by simp [taken]
      have trusted := Kept.trusted orderly serving queued marked
      exact Kept.vacates orderly (nothing_behind taken) (fun _ => trusted) (by simp) _
    | calls encodes packetIdentifier awaiting released rest last call outbound serving taken marked content =>
      have queued : released ∈ house.device.publications.items := by simp [taken]
      have trusted := Kept.trusted orderly serving queued marked
      have sent := Kept.calls orderly taken trusted last (house.device.calls ++ [call]) outbound
      have later := sent.mono ordinary.meters_le ordinary.hour_le
      unfold Orderly step
      simp only [same, stepped, List.drop_left, List.map_cons, List.map_nil, content]
      exact later
    | returns update publishing =>
      refine .quiet ordinary same (by rw [stepped]) ?_
      rw [stepped]
      exact Kept.returns orderly publishing _ _
    | requeues update publishing =>
      refine .quiet ordinary same (by rw [stepped]) ?_
      rw [stepped]
      exact Kept.requeues orderly publishing
    | clears unsubscribing =>
      refine .quiet ordinary same (by rw [stepped]) ?_
      rw [stepped]
      exact Kept.vacates orderly rfl (fun _ => orderly.released (by rw [unsubscribing]; rfl)) (by simp) _

theorem Orderly.step (orderly : Orderly date series k house) (metered : series ≠ .solarProduction)
    {event : Event × Clock} (ordinary : Ordinary date series k house event) :
    Orderly date series k (house.step event) := by
  obtain ⟨event, clock⟩ := event
  cases event with
  | device happens =>
    by_cases restoring : house.device.phase = .restoring
    · exact orderly.restoring metered restoring ordinary
    · exact orderly.restored metered restoring ordinary
  | delivers =>
    cases held : house.retained with
    | none =>
      have nothing : house.step (.delivers, clock) = house := by simp [Household.step, held]
      rw [nothing]
      exact orderly
    | some summary =>
      have delivered : house.step (.delivers, clock) =
          { house with device := house.device.step (.receives (.dailySummary summary), clock) } := by
        simp [Household.step, held]
      rw [delivered]
      by_cases restoring : house.device.phase = .restoring
      · obtain ⟨now, timestamp, shown, utc, falls, -⟩ := ordinary.clock (Or.inr rfl)
        exact Kept.delivers orderly restoring held falls shown utc
      · have ignored : house.device.step (.receives (.dailySummary summary), clock) = house.device := by
          cases phase : house.device.phase with
          | restoring => exact absurd phase restoring
          | _ => simp [Tasks.step, Tasks.receive, phase, Update.isDailySummary]
        rw [ignored]
        exact orderly
  | stores =>
    cases flying : house.inFlight with
    | nil =>
      have nothing : house.step (.stores, clock) = house := by simp [Household.step, flying]
      rw [nothing]
      exact orderly
    | cons snapshot rest =>
      have stored : house.step (.stores, clock) =
          { house with retained := some snapshot.summary, inFlight := rest } := by
        simp [Household.step, flying]
      rw [stored]
      unfold Orderly at orderly
      rw [flying] at orderly
      exact orderly.stores
  | reboots => exact Kept.reboots orderly

theorem Ordinary.wakes {now : LocalDateTime} {timestamp : Timestamp} (shown : clock.now = some now)
    (utc : clock.utcNow = some timestamp) (falls : FallsOn date now) (stamped : timestamp.utcDate = date)
    (forward : house.hour ≤ now.hour)
    (baselines : FromBaselines series k clock.now house.device.dashboard house.device.updates.items) :
    Ordinary date series k house (.device .displays, clock) where
  clock _ := ⟨now, timestamp, shown, utc, falls, stamped⟩
  forward _ other held := by
    rw [show clock.now = some other from held] at shown
    cases shown
    exact forward
  grows := by simp
  baselines _ := baselines
  broker := by simp
  restores := by simp

theorem Ordinary.counts {energyImport energyExport : ℚ} (grown : house.meters .gridExport ≤ energyExport) :
    Ordinary date .gridExport k house
      (.device (.receives (.grid (.counting energyImport energyExport))), clock) where
  clock := by simp
  forward := by simp
  grows := by
    rintro _ ⟨⟩ reading ⟨⟩
    exact grown
  baselines := by simp
  broker := by
    rintro _ ⟨⟩
    rfl
  restores := nofun

/-- No condition is on a step that the display task, the broker and the meters have
no part in. -/
theorem Ordinary.free {event : Event} (wakes : event ≠ .device .displays) (delivers : event ≠ .delivers)
    (receives : ∀ update, event ≠ .device (.receives update)) (timesOut : event ≠ .device .restoreTimesOut) :
    Ordinary date series k house (event, clock) :=
  ⟨by simp [wakes, delivers], by simp [wakes], by simp [receives], by simp [wakes], by simp [receives],
    by simp [timesOut]⟩

end Household

end EnergyDisplay
