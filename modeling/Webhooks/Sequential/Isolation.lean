import Webhooks.Sequential.Draining

/-!
# The rows of a batch

What a pass selects, leaves and returns: the first rows due, each claimed once; every
other row as it was; counts that add up; and under the id of a selected row what a pass
over that row alone would have left, as long as the strike counts of the batch fit
their column.
-/
namespace Webhooks

variable {env : Env} {pass : Pass} {σ σ₀ : Store} {id : Uuid}

/-! ## The first rows due -/

instance : Std.Total dueFirst := ⟨fun a b => by
  unfold dueFirst
  grind⟩

instance : IsTrans Delivery dueFirst := ⟨fun a b c hab hbc => by
  unfold dueFirst at *
  grind⟩

theorem Delivery.isDueAt_mono {row : Delivery} {now later : Time} (h : row.isDueAt now = true)
    (order : now ≤ later) : row.isDueAt later = true := by
  obtain ⟨due, next, hnext, reached⟩ := Delivery.isDueAt_iff.1 h
  exact Delivery.isDueAt_iff.2 ⟨due, next, hnext, reached.trans order⟩

/-- The first `limit` rows due at `now`, in the order of their schedules. -/
structure FirstDue (σ : Store) (now : Time) (limit : Nat) (ids : List Uuid) : Prop where
  nodup : ids.Nodup
  length : ids.length = min limit (σ.deliveries.rows.filter (·.isDueAt now)).length
  due : ∀ id ∈ ids, ∃ row, σ.deliveries.get? id = some row ∧ row.isDueAt now = true
  sorted : ids.Pairwise fun a b => ∀ row later, σ.deliveries.get? a = some row →
    σ.deliveries.get? b = some later → dueFirst row later
  first : ∀ id ∈ ids, ∀ row, σ.deliveries.get? id = some row →
    ∀ other ∈ σ.deliveries.rows, other.isDueAt now = true → other.id ∉ ids → dueFirst row other

theorem perm_dueQueryset (rows : List Delivery) (now : Time) :
    (dueQueryset rows now).Perm (rows.filter (·.isDueAt now)) :=
  List.perm_insertionSort dueFirst _

theorem mem_dueQueryset {rows : List Delivery} {now : Time} {row : Delivery} :
    row ∈ dueQueryset rows now ↔ row ∈ rows ∧ row.isDueAt now = true := by
  rw [(perm_dueQueryset rows now).mem_iff, List.mem_filter]

theorem firstDue_dueIds (σ : Store) (now : Time) (limit : Nat) :
    FirstDue σ now limit (σ.dueIds now limit) := by
  have sorted : (dueQueryset σ.deliveries.rows now).Pairwise dueFirst :=
    List.pairwise_insertionSort dueFirst _
  have keys : ((dueQueryset σ.deliveries.rows now).map Delivery.id).Nodup :=
    ((perm_dueQueryset _ now).map _).nodup_iff.2
      ((List.filter_sublist.map Delivery.id).nodup σ.deliveries.keys)
  have stored {row : Delivery} (h : row ∈ dueQueryset σ.deliveries.rows now) :
      σ.deliveries.get? row.id = some row := Table.get?_of_mem (mem_dueQueryset.1 h).1
  have ids : σ.dueIds now limit =
      ((dueQueryset σ.deliveries.rows now).take limit).map Delivery.id := List.map_take.symm
  have taken {row : Delivery} (h : row ∈ (dueQueryset σ.deliveries.rows now).take limit) :
      row ∈ dueQueryset σ.deliveries.rows now := List.mem_of_mem_take h
  refine ⟨?_, ?_, ?_, ?_, ?_⟩
  · exact (List.take_sublist limit _).nodup keys
  · rw [ids, List.length_map, List.length_take, (perm_dueQueryset _ now).length_eq]
  · intro id selected
    rw [ids] at selected
    obtain ⟨row, hrow, rfl⟩ := List.mem_map.1 selected
    exact ⟨row, stored (taken hrow), (mem_dueQueryset.1 (taken hrow)).2⟩
  · rw [ids, List.pairwise_map]
    refine (sorted.sublist (List.take_sublist limit _)).imp_of_mem ?_
    intro a b ha hb before row later hrow hlater
    rw [stored (taken ha)] at hrow
    rw [stored (taken hb)] at hlater
    cases hrow
    cases hlater
    exact before
  · intro id selected row hrow other hother due unselected
    rw [ids] at selected unselected
    obtain ⟨row', taken', rfl⟩ := List.mem_map.1 selected
    rw [stored (taken taken')] at hrow
    cases hrow
    rw [← List.take_append_drop limit (dueQueryset _ _)] at sorted
    have queued : other ∈ dueQueryset σ.deliveries.rows now := mem_dueQueryset.2 ⟨hother, due⟩
    rw [← List.take_append_drop limit (dueQueryset _ _), List.mem_append] at queued
    rcases queued with early | late
    · exact absurd (List.mem_map_of_mem early) unselected
    · exact (List.pairwise_append.1 sorted).2.2 row taken' other late

/-! ## The rounds of a pass -/

theorem leasable_eq {claimed : Uuid → Time} {ids : List Uuid}
    (leases : ∀ id ∈ ids, env.settings.canLease (claimed id) = true) :
    leasable env claimed ids = ids :=
  List.takeWhile_eq_self_iff.2 leases

/-- The lease of every row the pass selects ends at a date. -/
def Pass.Leases (env : Env) (pass : Pass) (limit : Option Nat) (σ : Store) : Prop :=
  ∀ id ∈ pass.selected env limit σ, env.settings.canLease (pass.turns id).claimed = true

theorem Pass.Leases.reached {limit : Option Nat} (leases : pass.Leases env limit σ) :
    pass.reached env limit σ = σ.dueIds pass.now (drainLimit env limit) :=
  leasable_eq leases

/-- A pass raises just when it selects a row it cannot lease. -/
theorem drain_returns_iff {limit : Option Nat} :
    (drain env pass limit σ).raises = false ↔ pass.Leases env limit σ := by
  simp [drain, Pass.Leases]

theorem drain_log {limit : Option Nat} (leases : pass.Leases env limit σ) :
    (drain env pass limit σ).log.map Prod.fst = σ.dueIds pass.now (drainLimit env limit) :=
  (Rounds.keys_log _ _).trans leases.reached

/-- What the rounds of `done` leave of a store: the other rows, the tasks of the rules, and no
more strikes than rows. -/
structure Reached (σ₀ : Store) (done : List Uuid) (σ : Store) : Prop where
  rows : ∀ id, id ∉ done → σ.deliveries.get? id = σ₀.deliveries.get? id
  tasks : ∀ k, (σ.subscriptions.get? k).map Subscription.task =
    (σ₀.subscriptions.get? k).map Subscription.task
  strikes : ∀ k rule₀ rule, σ₀.subscriptions.get? k = some rule₀ →
    σ.subscriptions.get? k = some rule →
    rule.consecutiveFailures ≤ rule₀.consecutiveFailures + done.countP (σ₀.owes k)

theorem Reached.start (σ : Store) : Reached σ [] σ where
  rows _ _ := rfl
  tasks _ := rfl
  strikes k rule₀ rule h h₀ := by
    rw [h] at h₀
    cases h₀
    exact Nat.le_add_right _ _

/-- A rule is still there, with the same task. -/
theorem Reached.rule {done : List Uuid} {k : Uuid} {rule : Subscription}
    (reached : Reached σ₀ done σ) (h : σ.subscriptions.get? k = some rule) :
    ∃ rule₀, σ₀.subscriptions.get? k = some rule₀ := by
  have tasks := reached.tasks k
  rw [h] at tasks
  obtain ⟨rule₀, hrule₀, -⟩ := Option.map_eq_some_iff.1 tasks.symm
  exact ⟨rule₀, hrule₀⟩

theorem Reached.next {done : List Uuid} (fresh : id ∉ done) (reached : Reached σ₀ done σ) :
    Reached σ₀ (done ++ [id]) (drainRound env pass id σ).2 := by
  have round := drainRound_round env pass id σ
  refine ⟨?_, ?_, ?_⟩
  · intro other apart
    rw [List.mem_append, List.mem_singleton, not_or] at apart
    exact (round.get?_other apart.2).trans (reached.rows other apart.1)
  · intro k
    exact (round.tasks k).trans (reached.tasks k)
  · intro k rule₀ rule h₀ after
    have tasks := round.tasks k
    rw [after] at tasks
    obtain ⟨rule', before, -⟩ := Option.map_eq_some_iff.1 tasks.symm
    have strike := round.strikes before after
    have earlier := reached.strikes k rule₀ rule' h₀ before
    have owes : σ.owes k id = σ₀.owes k id := by
      unfold Store.owes
      rw [reached.rows id fresh]
    rw [List.countP_append, List.countP_singleton, ← owes]
    omega

theorem reached_run {ids : List Uuid} (distinct : ids.Nodup) (σ : Store) :
    Reached σ ids (Rounds.run (drainRound env pass) ids σ).2 :=
  Rounds.run_induction (Reached.start σ) (fun _ _ _ => Reached.next) distinct

/-- In the middle of a pass a selected row is still due. -/
theorem drainRound_ne_unclaimed {row : Delivery} (stored : σ.deliveries.get? id = some row)
    (due : row.isDueAt pass.now = true)
    (lease : env.settings.canLease (pass.turns id).claimed = true) :
    (drainRound env pass id σ).1 ≠ .unclaimed := by
  intro unclaimed
  have round := drainRound_round env pass id σ
  rw [unclaimed] at round
  generalize (drainRound env pass id σ).2 = after at round
  cases round with
  | unclaimed refused =>
    simp [exec, lease, stored, Delivery.isDueAt_mono due (pass.forward id)] at refused

/-! ## The counts -/

/-- The rows whose attempt raised. -/
def Drained.raised (d : Drained) : Nat :=
  d.log.countP fun entry => match entry.2 with
    | .raised _ => true
    | _ => false

/-- What the counts say after some rounds of the loop. -/
structure Tally (ends : List TurnEnd) (counts : DrainCounts) : Prop where
  rounds : counts.attempted + counts.skipped = ends.length
  attempts : counts.attempted = counts.succeeded + counts.retrying + counts.dead +
    ends.countP fun e => match e with
      | .raised _ => true
      | _ => false

theorem tally_foldl {ends : List TurnEnd} (counted : TurnEnd.returned .pending ∉ ends) :
    Tally ends (ends.foldl DrainCounts.add {}) := by
  induction ends using List.reverseRecOn with
  | nil => exact ⟨rfl, rfl⟩
  | append_singleton ends e ih =>
    rw [List.mem_append, List.mem_singleton, not_or] at counted
    obtain ⟨rounds, attempts⟩ := ih counted.1
    rw [List.foldl_concat]
    constructor
    · cases e with
      | returned status => cases status <;> simp [DrainCounts.add] <;> omega
      | _ => simp [DrainCounts.add]; omega
    · cases e with
      | returned status =>
        cases status with
        | pending => exact absurd rfl counted.2
        | _ => simp [DrainCounts.add]; omega
      | _ => simp [DrainCounts.add]; omega

/-! ## A row on its own -/

/-- The store without the other rows due. -/
def Store.alone (σ : Store) (now : Time) (id : Uuid) : Store :=
  { σ with
    deliveries := σ.deliveries.deleteWhere fun row => row.isDueAt now && !decide (row.id = id) }

theorem get?_alone (σ : Store) (now : Time) (id : Uuid) :
    (σ.alone now id).deliveries.get? id = σ.deliveries.get? id := by
  rw [Store.alone, Table.get?_deleteWhere]
  cases stored : σ.deliveries.get? id with
  | none => rfl
  | some row => simp [Option.filter, Table.key_of_get? stored]

theorem dueIds_alone {now : Time} {limit : Nat} {row : Delivery}
    (stored : σ.deliveries.get? id = some row) (due : row.isDueAt now = true)
    (room : 0 < limit) : (σ.alone now id).dueIds now limit = [id] := by
  have queue : dueQueryset (σ.alone now id).deliveries.rows now = [row] := by
    refine List.perm_singleton.1 ((List.perm_ext_iff_of_nodup ?_ (List.nodup_singleton _)).2 ?_)
    · exact (perm_dueQueryset _ now).nodup_iff.2
        ((σ.alone now id).deliveries.keys.of_map.filter _)
    · intro other
      rw [mem_dueQueryset, List.mem_singleton]
      constructor
      · rintro ⟨kept, otherDue⟩
        obtain ⟨hother, own⟩ := List.mem_filter.1 kept
        have key : other.id = id := by simpa [otherDue] using own
        have found := Table.get?_of_mem hother
        rw [key, stored] at found
        exact (Option.some.inj found).symm
      · rintro rfl
        have key := Table.key_of_get? stored
        exact ⟨List.mem_filter.2 ⟨Table.mem_of_get? stored, by simp [key]⟩, due⟩
  obtain ⟨n, rfl⟩ : ∃ n, limit = n + 1 := ⟨limit - 1, by omega⟩
  simp [Store.dueIds, queue, Table.key_of_get? stored]

/-- Every strike count the batch could reach on the rule of one of its rows fits the column. -/
def StrikesFit (env : Env) (σ : Store) (ids : List Uuid) : Prop :=
  ∀ id ∈ ids, ∀ k rule, σ.owes k id = true → σ.subscriptions.get? k = some rule →
    ∀ n : Nat, n ≤ rule.consecutiveFailures + ids.countP (σ.owes k) → env.backend.integers n = true

/-- The turn of a row comes as if no other row were due. -/
theorem sameTurn_alone {pre post : List Uuid} (distinct : (pre ++ id :: post).Nodup)
    (fit : StrikesFit env σ (pre ++ id :: post)) (now : Time) :
    SameTurn env id (Rounds.run (drainRound env pass) pre σ).2 (σ.alone now id) := by
  have fresh : id ∉ pre := fun again =>
    List.disjoint_of_nodup_append distinct again List.mem_cons_self
  have reached : Reached σ pre (Rounds.run (drainRound env pass) pre σ).2 :=
    reached_run (List.nodup_append.1 distinct).1 σ
  generalize (Rounds.run (drainRound env pass) pre σ).2 = before at reached
  have row := reached.rows id fresh
  have owes (k : Uuid) : before.owes k id = σ.owes k id := by
    unfold Store.owes
    rw [row]
  have selected : id ∈ pre ++ id :: post := List.mem_append_right _ List.mem_cons_self
  have room {k : Uuid} (h : σ.owes k id = true) :
      pre.countP (σ.owes k) + 1 ≤ (pre ++ id :: post).countP (σ.owes k) := by
    rw [List.countP_append, List.countP_cons_of_pos h]
    omega
  refine ⟨row.trans (get?_alone σ now id).symm, fun k _ => reached.tasks k, ?_, ?_⟩
  · intro k rule h stored
    rw [owes] at h
    obtain ⟨rule₀, hrule₀⟩ := reached.rule stored
    have struck := reached.strikes k rule₀ rule hrule₀ stored
    have more := room h
    exact fit id selected k rule₀ h hrule₀ _ (by omega)
  · intro k rule h stored
    rw [owes] at h
    have more := room h
    exact fit id selected k rule h stored _ (by omega)

/-! ## What a pass comes to -/

/-- The pass selects the first rows due and claims each of them once, leaves every other row
alone, and returns counts that add up. -/
structure Accounted (env : Env) (pass : Pass) (limit : Option Nat) (σ : Store) : Prop where
  returns : (drain env pass limit σ).raises = false
  selected : FirstDue σ pass.now (drainLimit env limit)
    ((drain env pass limit σ).log.map Prod.fst)
  claimed : ∀ id, (id, TurnEnd.unclaimed) ∉ (drain env pass limit σ).log
  untouched : ∀ id, id ∉ (drain env pass limit σ).log.map Prod.fst →
    (drain env pass limit σ).store.deliveries.get? id = σ.deliveries.get? id
  rounds : (drain env pass limit σ).counts.attempted + (drain env pass limit σ).counts.skipped =
    (drain env pass limit σ).log.length
  attempts : (drain env pass limit σ).counts.attempted =
    (drain env pass limit σ).counts.succeeded + (drain env pass limit σ).counts.retrying +
      (drain env pass limit σ).counts.dead + (drain env pass limit σ).raised

/-- Each selected row ends as in a pass in which it is the only row due. -/
def Isolated (env : Env) (pass : Pass) (limit : Option Nat) (σ : Store) : Prop :=
  ∀ entry ∈ (drain env pass limit σ).log,
    (drain env pass limit (σ.alone pass.now entry.1)).log = [entry] ∧
      (drain env pass limit σ).store.deliveries.get? entry.1 =
        (drain env pass limit (σ.alone pass.now entry.1)).store.deliveries.get? entry.1

/-- An entry of the log in its place in the pass. -/
theorem mem_drain_log {limit : Option Nat} {e : TurnEnd} (leases : pass.Leases env limit σ)
    (h : (id, e) ∈ (drain env pass limit σ).log) :
    ∃ pre post, σ.dueIds pass.now (drainLimit env limit) = pre ++ id :: post ∧
      e = (drainRound env pass id (Rounds.run (drainRound env pass) pre σ).2).1 := by
  rw [← leases.reached]
  exact Rounds.mem_log h

theorem store_drain_run {limit : Option Nat} (leases : pass.Leases env limit σ) :
    (drain env pass limit σ).store =
      (Rounds.run (drainRound env pass) (σ.dueIds pass.now (drainLimit env limit)) σ).2 := by
  rw [← leases.reached]
  rfl

theorem accounted_drain {limit : Option Nat} (leases : pass.Leases env limit σ) :
    Accounted env pass limit σ := by
  have selected := firstDue_dueIds σ pass.now (drainLimit env limit)
  have counted : TurnEnd.returned .pending ∉ (drain env pass limit σ).log.map Prod.snd := by
    intro h
    obtain ⟨⟨id, e⟩, logged, ended⟩ := List.mem_map.1 h
    obtain ⟨pre, post, -, rfl⟩ := mem_drain_log leases logged
    have round := drainRound_round env pass id (Rounds.run (drainRound env pass) pre σ).2
    rw [show (drainRound env pass id _).1 = _ from ended] at round
    simpa using round.status
  obtain ⟨rounds, attempts⟩ := tally_foldl counted
  refine ⟨drain_returns_iff.2 leases, ?_, ?_, ?_, ?_, ?_⟩
  · rw [drain_log leases]
    exact selected
  · intro id logged
    obtain ⟨pre, post, split, ended⟩ := mem_drain_log leases logged
    have lease : env.settings.canLease (pass.turns id).claimed = true := by
      refine leases id ?_
      rw [Pass.selected, split]
      exact List.mem_append_right _ List.mem_cons_self
    rw [split] at selected
    obtain ⟨row, stored, due⟩ := selected.due id (List.mem_append_right _ List.mem_cons_self)
    have fresh : id ∉ pre := fun again =>
      List.disjoint_of_nodup_append selected.nodup again List.mem_cons_self
    have reached : Reached σ pre (Rounds.run (drainRound env pass) pre σ).2 :=
      reached_run (List.nodup_append.1 selected.nodup).1 σ
    exact drainRound_ne_unclaimed ((reached.rows id fresh).trans stored) due lease ended.symm
  · intro id unselected
    rw [drain_log leases] at unselected
    rw [store_drain_run leases]
    exact (reached_run selected.nodup σ).rows id unselected
  · rw [List.length_map] at rounds
    exact rounds
  · rw [List.countP_map] at attempts
    exact attempts

theorem isolated_drain {limit : Option Nat} (leases : pass.Leases env limit σ)
    (fit : StrikesFit env σ (σ.dueIds pass.now (drainLimit env limit))) :
    Isolated env pass limit σ := by
  have selected := firstDue_dueIds σ pass.now (drainLimit env limit)
  rintro ⟨id, e⟩ logged
  obtain ⟨pre, post, split, rfl⟩ := mem_drain_log leases logged
  have lease : env.settings.canLease (pass.turns id).claimed = true := by
    refine leases id ?_
    rw [Pass.selected, split]
    exact List.mem_append_right _ List.mem_cons_self
  have room : 0 < drainLimit env limit := by
    have length := selected.length
    rw [split, List.length_append, List.length_cons] at length
    omega
  rw [split] at selected fit
  obtain ⟨row, stored, due⟩ := selected.due id (List.mem_append_right _ List.mem_cons_self)
  have same : SameTurn env id (Rounds.run (drainRound env pass) pre σ).2 (σ.alone pass.now id) :=
    sameTurn_alone selected.nodup fit pass.now
  obtain ⟨ends, rows⟩ := drainRound_congr pass same
  have own : (drain env pass limit σ).store.deliveries.get? id =
      (drainRound env pass id (Rounds.run (drainRound env pass) pre σ).2).2.deliveries.get? id := by
    rw [store_drain_run leases, split]
    exact Rounds.read_run_own (fun id s => s.deliveries.get? id)
      (fun _ k s other => (drainRound_round env pass k s).get?_other other) selected.nodup
  have queue := dueIds_alone stored due room
  have single : drain env pass limit (σ.alone pass.now id) =
      { counts := DrainCounts.add {} (drainRound env pass id (σ.alone pass.now id)).1
        log := [(id, (drainRound env pass id (σ.alone pass.now id)).1)]
        store := (drainRound env pass id (σ.alone pass.now id)).2
        raises := false } := by
    simp [drain, Pass.reached, Pass.selected, leasable, queue, lease, Rounds.run]
  rw [single]
  exact ⟨by rw [ends], own.trans rows⟩

/-- A pass whose leases end at dates accounts for its rows, and isolates them while their strikes
can be counted. -/
theorem drain_isolates (env : Env) (pass : Pass) (limit : Option Nat) (σ : Store)
    (leases : pass.Leases env limit σ) :
    Accounted env pass limit σ ∧
      (StrikesFit env σ (σ.dueIds pass.now (drainLimit env limit)) →
        Isolated env pass limit σ) :=
  ⟨accounted_drain leases, isolated_drain leases⟩

/-- Integer columns of 32 bits. -/
def narrowEnv : Env :=
  { sampleEnv with
    backend := ⟨false, false, fun n => decide (n ≤ 2147483647), by decide, fun _ => true, true⟩ }

def laterRow : Delivery := { sampleRow with id := sampleUuid 3, idempotencyKey := "later" }

/-- Every handler gives up at once. -/
def hopelessWorld : World where
  behave _ _ := .returned { ok := false, retryable := false }
  now := 1
  later := 1
  draw := sampleDraw

def hopelessPass : Pass := ⟨1, fun _ => ⟨1, 1, hopelessWorld⟩, fun _ => le_rfl⟩

def twoRowStore : Store :=
  { sampleRowStore with deliveries := ⟨[sampleRow, laterRow], by decide, by decide⟩ }

theorem twoRows_fit :
    StrikesFit narrowEnv twoRowStore (twoRowStore.dueIds 1 (drainLimit narrowEnv (some 2))) := by
  intro id _ k rule _ stored n reach
  have few := (firstDue_dueIds twoRowStore 1 (drainLimit narrowEnv (some 2))).length
  have batch : (twoRowStore.dueIds 1 (drainLimit narrowEnv (some 2))).countP
      (twoRowStore.owes k) ≤ 2 := List.countP_le_length.trans (by rw [few]; exact min_le_left ..)
  obtain rfl : rule = sampleRule := List.mem_singleton.1 (Table.mem_of_get? stored)
  have fresh : sampleRule.consecutiveFailures = 0 := rfl
  exact decide_eq_true (by omega)

theorem twoRows_leases : hopelessPass.Leases narrowEnv (some 2) twoRowStore :=
  fun _ _ => (by decide +kernel : narrowEnv.settings.canLease 1 = true)

/-- A fresh rule, two rows and a pass for both. -/
theorem drain_isolates_two :
    Accounted narrowEnv hopelessPass (some 2) twoRowStore ∧
      Isolated narrowEnv hopelessPass (some 2) twoRowStore ∧
      (drain narrowEnv hopelessPass (some 2) twoRowStore).counts = { attempted := 2, dead := 2 } :=
  have isolates := drain_isolates narrowEnv hopelessPass (some 2) twoRowStore twoRows_leases
  ⟨isolates.1, isolates.2 twoRows_fit, by decide +kernel⟩

/-! ## The pass of an installation -/

/-- Those who answer do not look at what was sent before. -/
structure Outside.Deaf (outside : Outside) : Prop where
  post : ∀ sent, outside.post sent = outside.post []
  requestNotification : ∀ sent, outside.requestNotification sent = outside.requestNotification []
  signal : ∀ sent, outside.signal sent = outside.signal []
  host : ∀ sent, outside.host sent = outside.host []

def Moment.turn (env : Env) (outside : Outside) (m : Moment) : Turn :=
  ⟨m.clock, m.claimed, m.world env outside []⟩

theorem world_of_deaf {outside : Outside} (deaf : outside.Deaf) (m : Moment)
    (sent : List Message) : m.world env outside sent = m.world env outside [] := by
  have behave : Handler.behave env outside m sent = Handler.behave env outside m [] := by
    funext handler context
    cases handler <;> simp only [Handler.behave]
    · rw [deaf.post]
    · rw [deaf.requestNotification]
    · rw [deaf.signal]
    · rw [deaf.host]
    · rw [deaf.host]
  simp only [Moment.world, behave]

theorem store_drainOne {outside : Outside} (deaf : outside.Deaf) {moments : Uuid → Moment}
    (turns : ∀ id, pass.turns id = (moments id).turn env outside) (s : Site) (id : Uuid) :
    (s.drainOne env outside moments id).store = (drainRound env pass id s.store).2 := by
  have turn := turns id
  unfold Site.drainOne drainRound
  simp only [turn, Moment.turn, Site.tick]
  cases exec env { s.store with clock := (moments id).clock } (.claim id (moments id).claimed) with
  | none => rfl
  | some claimed =>
    simp only [Site.attempt, attemptById, world_of_deaf deaf]
    cases claimed.load id with
    | none => rfl
    | some loaded =>
      obtain ⟨row, rule⟩ := loaded
      dsimp only
      split <;> simp_all

/-- The drain of an installation is such a pass, with the handlers at work in it. -/
theorem store_drain {outside : Outside} (deaf : outside.Deaf) {moments : Uuid → Moment}
    (turns : ∀ id, pass.turns id = (moments id).turn env outside) (limit : Nat) (s : Site) :
    (s.drain env outside moments pass.now limit).store =
      (drain env pass (some limit) s.store).store := by
  have fold (ids : List Uuid) (s : Site) :
      (ids.foldl (Site.drainOne env outside moments) s).store =
        (Rounds.run (drainRound env pass) ids s.store).2 := by
    induction ids generalizing s with
    | nil => rfl
    | cons id ids ih => rw [List.foldl_cons, ih, store_drainOne deaf turns]; rfl
  have claimed : (fun id => (pass.turns id).claimed) = fun id => (moments id).claimed :=
    funext fun id => by rw [turns id]; rfl
  rw [Site.drain, fold, ← claimed]
  rfl

/-! ## A full column -/

/-- One strike below the largest count. -/
def wornRule : Subscription := { sampleRule with consecutiveFailures := 2147483646 }

def wornStore : Store :=
  { twoRowStore with
    subscriptions := ⟨[wornRule], List.nodup_singleton _, List.nodup_singleton _⟩ }

/-- A lease of ten thousand years, which no date ends. -/
def endlessLease : Env :=
  { narrowEnv with settings := { defaults with claimLeaseSeconds := 315360000000 } }

/-- The strike of the first row leaves no room for that of the second, whose death is undone;
alone it dies. And a pass that cannot lease its rows raises at the first of them. -/
theorem worn_rule_not_isolated :
    ((drain narrowEnv hopelessPass none wornStore).store.deliveries.get? laterRow.id).map
        Delivery.status = some .pending ∧
      ((drain narrowEnv hopelessPass none
        (wornStore.alone 1 laterRow.id)).store.deliveries.get? laterRow.id).map
          Delivery.status = some .dead ∧
      ¬Isolated narrowEnv hopelessPass none wornStore ∧
      (drain endlessLease hopelessPass none wornStore).log = [] ∧
      ¬Accounted endlessLease hopelessPass none wornStore := by
  have batch : ((drain narrowEnv hopelessPass none wornStore).store.deliveries.get?
      laterRow.id).map Delivery.status = some .pending := by decide +kernel
  have alone : ((drain narrowEnv hopelessPass none
      (wornStore.alone 1 laterRow.id)).store.deliveries.get? laterRow.id).map
        Delivery.status = some .dead := by decide +kernel
  have raises : (drain endlessLease hopelessPass none wornStore).raises = true := by
    decide +kernel
  refine ⟨batch, alone, fun isolated => ?_, by decide +kernel, fun accounted => ?_⟩
  · have logged : (laterRow.id, TurnEnd.raised databaseError) ∈
        (drain narrowEnv hopelessPass none wornStore).log := by decide +kernel
    have same := congrArg (Option.map Delivery.status) (isolated _ logged).2
    rw [batch, show hopelessPass.now = 1 from rfl, alone] at same
    cases same
  · cases raises.symm.trans accounted.returns

end Webhooks
