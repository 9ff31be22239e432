import Mathlib.Algebra.Order.BigOperators.Group.List
import Webhooks.TransportErrors

/-!
# The total deadline

How long `post` takes when the peer paces it: each event of its run is so many
operations on the socket, and each of them ends within the timeout the socket has.
What is left of the total deadline is computed once, before connecting, and is then
a bound on every single operation.
-/
namespace Webhooks

def NetworkEvent.isLookup : NetworkEvent → Bool
  | .lookup _ _ => true
  | _ => false

/-- The peer is waited for under the timeout of the socket. -/
def NetworkEvent.onSocket : NetworkEvent → Bool
  | .lookup _ _ => false
  | .close => false
  | _ => true

/-- How long each operation of an event takes, after the events before it. -/
abbrev Pace := List NetworkEvent → NetworkEvent → List ℚ

/-- The time a run takes. -/
def Pace.spent (pace : Pace) : List NetworkEvent → List NetworkEvent → ℚ :=
  Tracing.total fun past e => (pace past e).sum

/-- The part of it that goes into name lookups. -/
def Pace.lookups (pace : Pace) : List NetworkEvent → List NetworkEvent → ℚ :=
  Tracing.total fun past e => if e.isLookup then (pace past e).sum else 0

section
variable {Ip : Type} (addresses : Addresses Ip) (network : Network) (env : Env)
  (settings : TransportSettings) (unicode : Unicode) (options : PostOptions) (url : String)
  (body : ByteArray) (headers : List (String × String)) (past : List NetworkEvent)

/-- `total_deadline`, with its default. -/
def totalDeadline : ℚ :=
  options.totalDeadline.getD
    (if settings.totalDeadlineSeconds = 0 then 20 else settings.totalDeadlineSeconds)

/-- The duration is within the timeout that the socket of the run is given. -/
def WithinTimeout (d : ℚ) : Prop :=
  ∀ dest target past',
    Dials addresses network env settings unicode options url past dest target past' →
    d ≤ connectTimeout network settings options past past'

/-- A lookup takes its time, closing takes none, and an event on the socket is as many operations
as the peer makes of it, each of which ends within the timeout. -/
def Paced (operations : List NetworkEvent → NetworkEvent → Nat) (pace : Pace)
    (before : List NetworkEvent) (e : NetworkEvent) : Prop :=
  if e.onSocket then (pace before e).length = operations before e ∧ ∀ d ∈ pace before e,
    0 ≤ d ∧ WithinTimeout addresses network env settings unicode options url past d
  else if e.isLookup then ∃ d, 0 ≤ d ∧ pace before e = [d]
  else pace before e = []

/-- The events of the run. -/
def postEvents : List NetworkEvent :=
  (post addresses network env settings unicode url body headers options past).1

/-- A pace of the run on which the clock that `post` reads goes by. -/
structure Fits (operations : List NetworkEvent → NetworkEvent → Nat) (pace : Pace) : Prop where
  paced : Tracing.Each (Paced addresses network env settings unicode options url past operations
    pace) past (postEvents addresses network env settings unicode options url body headers past)
  clock : ∀ before after,
    postEvents addresses network env settings unicode options url body headers past =
      before ++ after →
    (∀ e ∈ before, e.isLookup = true) →
    network.monotonic (past ++ before) = network.monotonic past + pace.spent past before

/-- The operations on the socket in the whole run. -/
def socketOperations (operations : List NetworkEvent → NetworkEvent → Nat) : Nat :=
  Tracing.total (fun before e => if e.onSocket then operations before e else 0) past
    (postEvents addresses network env settings unicode options url body headers past)

/-- The deadline is not negative, and it has room for all operations on the socket, each at its
full timeout. -/
structure Affordable (operations : List NetworkEvent → NetworkEvent → Nat) : Prop where
  nonnegative : 0 ≤ totalDeadline settings options
  room : ∀ dest target past',
    Dials addresses network env settings unicode options url past dest target past' →
    socketOperations addresses network env settings unicode options url body headers past
        operations * connectTimeout network settings options past past' ≤
      totalDeadline settings options

end

section
variable {Ip : Type} {addresses : Addresses Ip} {network : Network} {env : Env}
  {settings : TransportSettings} {unicode : Unicode} {options : PostOptions} {url : String}
  {body : ByteArray} {headers : List (String × String)} {past : List NetworkEvent}

theorem connectTarget_lookups {insecure : Bool} {dest : Destination} :
    ∀ e ∈ (connectTarget addresses network env insecure dest past).1, e.isLookup = true := by
  cases insecure with
  | true => exact fun e he => absurd he List.not_mem_nil
  | false =>
    obtain ⟨result, run, -⟩ := @connectTarget_run _ addresses network env past dest
    rw [run]
    intro e he
    obtain rfl := List.mem_singleton.1 he
    rfl

/-- Before it dials, `post` waits for nobody but the resolver. -/
theorem lookups_of_not_dials
    (stopped : ∀ dest target past',
      ¬Dials addresses network env settings unicode options url past dest target past') :
    ∀ e ∈ postEvents addresses network env settings unicode options url body headers past,
      e.isLookup = true := by
  have run := post_runs addresses network env settings unicode options url body headers past
  unfold postEvents
  generalize post addresses network env settings unicode url body headers options past = result
    at run
  have names (dest : Destination) :=
    @connectTarget_lookups _ addresses network env past (options.insecure env) dest
  cases run with
  | refused exc refused => exact fun e he => absurd he List.not_mem_nil
  | unresolved dest lookups exc _ failed =>
    have only := names dest
    rwa [failed] at only
  | late dest target lookups _ resolved =>
    have only := names dest
    rwa [resolved] at only
  | unconnected dest target lookups events exc dials => exact absurd dials (stopped _ _ _)
  | exchanged dest target lookups events conn dials => exact absurd dials (stopped _ _ _)

/-! ## The slowest pace -/

section
variable {operations : List NetworkEvent → NetworkEvent → Nat} {pace : Pace} {timeout : ℚ}
  {before : List NetworkEvent} {e : NetworkEvent}

/-- What an event costs at most: the lookup's own time, or every operation's timeout. -/
theorem sum_le_of_paced
    (bound : ∀ d, WithinTimeout addresses network env settings unicode options url past d →
      d ≤ timeout)
    (h : Paced addresses network env settings unicode options url past operations pace before e) :
    (pace before e).sum ≤ (if e.isLookup then (pace before e).sum else 0) +
      ((if e.onSocket then operations before e else 0 : Nat) : ℚ) * timeout := by
  unfold Paced at h
  cases e with
  | lookup host port => simp [NetworkEvent.isLookup, NetworkEvent.onSocket]
  | close =>
    have none : pace before .close = [] := h
    simp [NetworkEvent.isLookup, NetworkEvent.onSocket, none]
  | _ =>
    obtain ⟨count, each⟩ := h
    have most := List.sum_le_card_nsmul _ timeout fun d hd => bound d (each d hd).2
    simpa [NetworkEvent.isLookup, NetworkEvent.onSocket, count] using most

variable (network operations timeout) in
/-- Every operation takes its full timeout, and a lookup what the clock says. -/
def slowest : Pace := fun before e =>
  if e.onSocket then List.replicate (operations before e) timeout
  else if e.isLookup then [network.monotonic (before ++ [e]) - network.monotonic before]
  else []

theorem sum_slowest : (slowest network operations timeout before e).sum =
    (if e.isLookup then (slowest network operations timeout before e).sum else 0) +
      ((if e.onSocket then operations before e else 0 : Nat) : ℚ) * timeout := by
  cases e <;> simp [slowest, NetworkEvent.isLookup, NetworkEvent.onSocket]

theorem spent_slowest : (slowest network operations timeout).spent past
      (postEvents addresses network env settings unicode options url body headers past) =
    (slowest network operations timeout).lookups past
        (postEvents addresses network env settings unicode options url body headers past) +
      socketOperations addresses network env settings unicode options url body headers past
        operations * timeout := by
  unfold Pace.spent Pace.lookups socketOperations
  rw [← Tracing.total_mul, ← Tracing.total_add]
  exact Tracing.total_congr (Tracing.each_of_forall fun _ _ _ => sum_slowest)

theorem fits_slowest (forward : ∀ before e, network.monotonic before ≤
      network.monotonic (before ++ [e])) (nonnegative : 0 ≤ timeout)
    (given : WithinTimeout addresses network env settings unicode options url past timeout) :
    Fits addresses network env settings unicode options url body headers past operations
      (slowest network operations timeout) := by
  refine ⟨Tracing.each_of_forall fun before e _ => ?_, fun before after _ names => ?_⟩
  · unfold Paced slowest
    split
    · refine ⟨List.length_replicate, fun d hd => ?_⟩
      obtain rfl := List.eq_of_mem_replicate hd
      exact ⟨nonnegative, given⟩
    · split
      · exact ⟨_, sub_nonneg.2 (forward before e), rfl⟩
      · rfl
  · have meter : (slowest network operations timeout).spent past before =
        network.monotonic (past ++ before) - network.monotonic past := by
      rw [← Tracing.total_meter]
      refine Tracing.total_congr (Tracing.each_of_forall fun past' e he => ?_)
      have name := names e he
      cases e with
      | lookup host port => simp [slowest, NetworkEvent.isLookup, NetworkEvent.onSocket]
      | _ => cases name
    rw [meter]
    ring

/-! ## The bound -/

theorem spent_le_of_affordable
    (affordable : Affordable addresses network env settings unicode options url body headers past
      operations)
    (fits : Fits addresses network env settings unicode options url body headers past operations
      pace) :
    pace.spent past
        (postEvents addresses network env settings unicode options url body headers past) ≤
      totalDeadline settings options + pace.lookups past
        (postEvents addresses network env settings unicode options url body headers past) := by
  unfold Pace.spent Pace.lookups
  by_cases dials : ∃ dest target past',
      Dials addresses network env settings unicode options url past dest target past'
  · obtain ⟨dest, target, past', dials⟩ := dials
    have room := affordable.room dest target past' dials
    unfold socketOperations at room
    rw [← Tracing.total_mul] at room
    have events := Tracing.total_le_total (fits.paced.imp fun _ _ paced =>
      sum_le_of_paced (fun d within => within dest target past' dials) paced)
    rw [Tracing.total_add] at events
    linarith
  · have names : ∀ e ∈ postEvents addresses network env settings unicode options url body headers
        past, e.isLookup = true :=
      lookups_of_not_dials fun dest target past' h => dials ⟨dest, target, past', h⟩
    have same : Tracing.Each (fun past' e =>
        (pace past' e).sum = if e.isLookup then (pace past' e).sum else 0) past
        (postEvents addresses network env settings unicode options url body headers past) :=
      Tracing.each_of_forall fun _ e he => by rw [names e he, if_pos rfl]
    have nonnegative := affordable.nonnegative
    have sums := Tracing.total_congr same
    linarith

theorem monotonic_append
    (forward : ∀ before e, network.monotonic before ≤ network.monotonic (before ++ [e]))
    (l : List NetworkEvent) : network.monotonic past ≤ network.monotonic (past ++ l) := by
  induction l generalizing past with
  | nil => rw [List.append_nil]
  | cons e l ih =>
    have rest := @ih (past ++ [e])
    rw [List.append_assoc, List.singleton_append] at rest
    exact (forward past e).trans rest

theorem totalDeadline_nonneg_of_dials
    (forward : ∀ before e, network.monotonic before ≤ network.monotonic (before ++ [e]))
    {dest : Destination} {target : String} {past' : List NetworkEvent}
    (dials : Dials addresses network env settings unicode options url past dest target past') :
    0 ≤ totalDeadline settings options := by
  obtain ⟨-, ⟨events, -, rfl⟩, inTime⟩ := dials
  have left : remaining network settings options past (past ++ events) =
    totalDeadline settings options -
      (network.monotonic (past ++ events) - network.monotonic past) := rfl
  have later := @monotonic_append network past forward events
  linarith

theorem affordable_of_spent_le
    (forward : ∀ before e, network.monotonic before ≤ network.monotonic (before ++ [e]))
    (kept : ∀ pace, Fits addresses network env settings unicode options url body headers past
      operations pace → pace.spent past
          (postEvents addresses network env settings unicode options url body headers past) ≤
        totalDeadline settings options + pace.lookups past
          (postEvents addresses network env settings unicode options url body headers past)) :
    Affordable addresses network env settings unicode options url body headers past
      operations := by
  have slow : ∀ timeout, 0 ≤ timeout →
      WithinTimeout addresses network env settings unicode options url past timeout →
      socketOperations addresses network env settings unicode options url body headers past
        operations * timeout ≤ totalDeadline settings options := by
    intro timeout nonnegative given
    have bound := kept _ (fits_slowest forward nonnegative given)
    rw [spent_slowest] at bound
    linarith
  refine ⟨?_, fun dest target past' dials => ?_⟩
  · by_cases dials : ∃ dest target past',
        Dials addresses network env settings unicode options url past dest target past'
    · obtain ⟨dest, target, past', dials⟩ := dials
      exact totalDeadline_nonneg_of_dials forward dials
    · have := slow 0 le_rfl fun dest target past' h => absurd ⟨dest, target, past', h⟩ dials
      simpa using this
  · rcases le_or_gt 0 (connectTimeout network settings options past past') with pos | neg
    · refine slow _ pos fun dest' target' past'' dials' => ?_
      obtain ⟨-, -, rfl⟩ := dials.unique dials'
      exact le_rfl
    · have count : (0 : ℚ) ≤ socketOperations addresses network env settings unicode options url
        body headers past operations := Nat.cast_nonneg _
      exact (mul_nonpos_of_nonneg_of_nonpos count neg.le).trans
        (totalDeadline_nonneg_of_dials forward dials)

end

/-- `post` keeps its total deadline, name lookups aside, at every pace on which each operation on
the socket ends within its timeout, if and only if the deadline has room for all of them at their
full timeout. A claim that is longer than that is then not outlived. -/
theorem post_within_deadline_iff (addresses : Addresses Ip) (network : Network) (env : Env)
    (settings : TransportSettings) (unicode : Unicode) (options : PostOptions) (url : String)
    (body : ByteArray) (headers : List (String × String)) (past : List NetworkEvent)
    (operations : List NetworkEvent → NetworkEvent → Nat)
    (forward : ∀ before e, network.monotonic before ≤ network.monotonic (before ++ [e])) :
    let run := postEvents addresses network env settings unicode options url body headers past
    let Fitting :=
      Fits addresses network env settings unicode options url body headers past operations
    let Room :=
      Affordable addresses network env settings unicode options url body headers past operations
    ((∀ pace, Fitting pace →
      pace.spent past run ≤ totalDeadline settings options + pace.lookups past run) ↔ Room) ∧
    (Room → ∀ pace, Fitting pace →
      totalDeadline settings options + pace.lookups past run < (env.settings.lease : ℚ) →
      pace.spent past run < (env.settings.lease : ℚ)) := by
  intro run Fitting Room
  have kept : Room → ∀ pace, Fitting pace →
      pace.spent past run ≤ totalDeadline settings options + pace.lookups past run :=
    fun room _ fits => spent_le_of_affordable room fits
  refine ⟨⟨affordable_of_spent_le forward, kept⟩, fun room pace fits below => ?_⟩
  exact (kept room pace fits).trans_lt below

/-! ## A receiver that takes its time -/

theorem forward_strictNetwork (before : List NetworkEvent) (e : NetworkEvent) :
    strictNetwork.monotonic before ≤ strictNetwork.monotonic (before ++ [e]) :=
  le_refl 0

/-- The head of the response comes in this many pieces, everything else at once. -/
def inPieces (n : Nat) (_ : List NetworkEvent) : NetworkEvent → Nat
  | .response => n
  | _ => 1

theorem connectTimeout_strictNetwork (settings : TransportSettings) (options : PostOptions)
    (past past' : List NetworkEvent) :
    connectTimeout strictNetwork settings options past past' =
      min (options.timeout.getD (if settings.timeoutSeconds = 0 then 10 else
        settings.timeoutSeconds)) (totalDeadline settings options) := by
  simp [connectTimeout, remaining, totalDeadline, strictNetwork, rebindingNetwork]

theorem post_within_deadline_short :
    let options : PostOptions := { timeout := some 4 }
    let run := postEvents sampleAddresses strictNetwork sampleEnv {} sampleUnicode options
      "https://receiver.example/hook" .empty [] []
    (slowest strictNetwork (inPieces 1) 4).spent [] run ≤
      20 + (slowest strictNetwork (inPieces 1) 4).lookups [] run := by
  intro options run
  have given : WithinTimeout sampleAddresses strictNetwork sampleEnv {} sampleUnicode options
      "https://receiver.example/hook" [] 4 := by
    intro dest target past' _
    rw [connectTimeout_strictNetwork]
    decide +kernel
  have room : Affordable sampleAddresses strictNetwork sampleEnv {} sampleUnicode options
      "https://receiver.example/hook" .empty [] [] (inPieces 1) := by
    refine ⟨by decide +kernel, fun dest target past' _ => ?_⟩
    have count : socketOperations sampleAddresses strictNetwork sampleEnv {} sampleUnicode options
        "https://receiver.example/hook" .empty [] [] (inPieces 1) = 5 := by decide +kernel
    rw [connectTimeout_strictNetwork, count]
    decide +kernel
  refine (post_within_deadline_iff sampleAddresses strictNetwork sampleEnv {} sampleUnicode options
    "https://receiver.example/hook" .empty [] [] (inPieces 1) forward_strictNetwork).1.2 room _ ?_
  exact fits_slowest forward_strictNetwork (by norm_num) given

/-- The defaults, and a peer that takes nine seconds for each operation and sends the head of its
response in twelve pieces: the run outlives its deadline, and its claim. -/
theorem post_outlives_deadline :
    let run := postEvents sampleAddresses strictNetwork sampleEnv {} sampleUnicode {}
      "https://receiver.example/hook" .empty [] []
    let pace := slowest strictNetwork (inPieces 12) 9
    Fits sampleAddresses strictNetwork sampleEnv {} sampleUnicode {}
        "https://receiver.example/hook" .empty [] [] (inPieces 12) pace ∧
      totalDeadline {} {} + pace.lookups [] run < pace.spent [] run ∧
      (defaults.lease : ℚ) < pace.spent [] run := by
  intro run pace
  have given : WithinTimeout sampleAddresses strictNetwork sampleEnv {} sampleUnicode {}
      "https://receiver.example/hook" [] 9 := by
    intro dest target past' _
    rw [connectTimeout_strictNetwork]
    decide +kernel
  refine ⟨fits_slowest forward_strictNetwork (by norm_num) given, ?_, ?_⟩
  · decide +kernel
  · decide +kernel

end

end Webhooks
