import RailWatch.Proofs.Polling.Width
import RailWatch.Proofs.Settings.Timestamp
/-!
# RailWatch.Proofs.Settings.Acceptance

Which environments are accepted, and how the train is followed under them.

Eight **points** are checked about an environment, one after the other (`Point.order`), and each of
them may be met or not (`Point.Met`). A reader `Checks` a list of points if it succeeds exactly if
all of them are met, and if its error is about the first that is not. Readers in a row check their
points in a row (`Checks.bind`), so it is enough to look at one reader at a time.

What is made of an environment that is accepted is said by `Follows`, setting by setting. The main
result is `read_checks_in_order`. Departure and arrival are meant to be timestamps by RFC 3339. All of
those are accepted, but they are not the only ones: `SaysStrictly` says what a timestamp that is read
lacks for that, and `true_minus_accepted` has an environment with two that are none.
-/

namespace RailWatch.Settings

open Text

/-! ### The points -/

/-- What is checked about an environment. -/
inductive Point
  | trainId
  | departure
  | arrival
  /-- That departure and arrival are set together. -/
  | schedule
  | interval
  | before
  | after
  | timeout

/-- The setting, if it is set, is a timestamp, where `valid` says what timestamps are. -/
def SaysInstant (valid : List Char → Prop) (env : Environment) (setting : Setting) : Prop :=
  ∀ text, lookup env setting = some text → valid text.toList

/-- There is neither a blank nor a true minus sign in the setting, and its second 60, if it has one, was
announced. -/
def SaysStrictly (announced : Int → Prop) (env : Environment) (setting : Setting) : Prop :=
  ∀ text i, lookup env setting = some text → Timestamp.Writes Timestamp.lenient text.toList i →
    Timestamp.blank ∉ text.toList ∧ Timestamp.minusSign ∉ text.toList ∧
      (i.isLeap = true → announced i.seconds)

namespace Point

/-- All points in the order in which they are checked. -/
def order : List Point :=
  [trainId, departure, arrival, schedule, interval, before, after, timeout]

theorem mem_order (p : Point) : p ∈ order := by
  cases p <;> simp [order]

/-- The environment is in order as to a point, where `valid` says what timestamps are. -/
def Met (valid : List Char → Prop) (env : Environment) : Point → Prop
  | trainId => ∃ id, lookup env .trainId = some id ∧ ∃ c ∈ id.toList, isBlank c = false
  | departure => SaysInstant valid env .departure
  | arrival => SaysInstant valid env .arrival
  | schedule => lookup env .departure = none ↔ lookup env .arrival = none
  | interval => SaysWithin env .interval 1 86400
  | before => SaysWithin env .before 0 1440
  | after => SaysWithin env .after 0 1440
  | timeout => SaysWithin env .timeout 1 86400

/-- The error is about the point. -/
def Blamed (e : SettingsError) : Point → Prop
  | trainId => e = .missing .trainId
  | departure => ∃ flaw, e = .invalid .departure flaw
  | arrival => ∃ flaw, e = .invalid .arrival flaw
  | schedule => e = .partialSchedule
  | interval => ∃ flaw, e = .invalid .interval flaw
  | before => ∃ flaw, e = .invalid .before flaw
  | after => ∃ flaw, e = .invalid .after flaw
  | timeout => ∃ flaw, e = .invalid .timeout flaw

/-- The first point of a list that is not met. -/
def FirstUnmet (valid : List Char → Prop) (env : Environment) (ps : List Point) (p : Point) : Prop :=
  ∃ front back, ps = front ++ p :: back ∧ (∀ q ∈ front, q.Met valid env) ∧ ¬p.Met valid env

end Point

/-! ### Checking points in a row -/

/-- The reader succeeds exactly if all points are met, and blames the first that is not. -/
structure Checks {α : Type} (env : Environment) (ps : List Point) (r : Except SettingsError α) :
    Prop where
  accepts : (∃ a, r = .ok a) ↔ ∀ p ∈ ps, p.Met Timestamp.IsTimestamp env
  blames : ∀ e, r = .error e → ∃ p, Point.FirstUnmet Timestamp.IsTimestamp env ps p ∧ p.Blamed e

namespace Checks

variable {α β : Type} {env : Environment} {ps qs : List Point} {p : Point}
  {r : Except SettingsError α} {f : α → Except SettingsError β}

theorem ok (a : α) : Checks env [] (.ok a) := ⟨by simp, nofun⟩

/-- A reader of which all errors are about one point. -/
theorem single (haccepts : (∃ a, r = .ok a) ↔ p.Met Timestamp.IsTimestamp env)
    (hblames : ∀ e, r = .error e → p.Blamed e) : Checks env [p] r where
  accepts := by simpa using haccepts
  blames e he := by
    refine ⟨p, ⟨[], [], rfl, nofun, fun hmet => ?_⟩, hblames e he⟩
    obtain ⟨a, ha⟩ := haccepts.mpr hmet
    rw [he] at ha
    cases ha

/-- Readers in a row check their points in a row. -/
theorem bind (h : Checks env ps r) (hf : ∀ a, r = .ok a → Checks env qs (f a)) :
    Checks env (ps ++ qs) (r >>= f) where
  accepts := by
    rw [List.forall_mem_append, ← h.accepts]
    constructor
    · rintro ⟨b, hb⟩
      obtain ⟨a, ha, hb⟩ := bind_eq_ok_iff.mp hb
      exact ⟨⟨a, ha⟩, (hf a ha).accepts.mp ⟨b, hb⟩⟩
    · rintro ⟨⟨a, ha⟩, hqs⟩
      obtain ⟨b, hb⟩ := (hf a ha).accepts.mpr hqs
      exact ⟨b, bind_eq_ok_iff.mpr ⟨a, ha, hb⟩⟩
  blames e he := by
    rcases bind_eq_error_iff.mp he with he | ⟨a, ha, he⟩
    · obtain ⟨p, ⟨front, back, rfl, hfront, hp⟩, hblamed⟩ := h.blames e he
      exact ⟨p, ⟨front, back ++ qs, by simp, hfront, hp⟩, hblamed⟩
    · -- the first reader succeeded, so its points come before the one that is blamed
      obtain ⟨p, ⟨front, back, rfl, hfront, hp⟩, hblamed⟩ := (hf a ha).blames e he
      have hps := h.accepts.mp ⟨a, ha⟩
      exact ⟨p, ⟨ps ++ front, back, by simp, List.forall_mem_append.mpr ⟨hps, hfront⟩, hp⟩, hblamed⟩

end Checks

/-! ### The readers one by one -/

variable {env : Environment} {setting : Setting} {p : Point}

theorem readTrainId_eq_ok_iff {id : String} :
    readTrainId env = .ok id ↔
      lookup env .trainId = some id ∧ ∃ c ∈ id.toList, isBlank c = false := by
  unfold readTrainId
  cases lookup env .trainId with
  | none => simp
  | some text =>
      simp only [Option.some.injEq]
      constructor
      · intro h
        split at h
        · cases h
        · next hblank =>
            obtain rfl := Except.ok.inj h
            exact ⟨rfl, isAllBlank_eq_false_iff.mp (by simpa using hblank)⟩
      · rintro ⟨rfl, hsome⟩
        rw [isAllBlank_eq_false_iff.mpr hsome, if_neg Bool.false_ne_true]

theorem readTrainId_eq_error {e : SettingsError} (h : readTrainId env = .error e) :
    e = .missing .trainId := by
  unfold readTrainId at h
  split at h
  · split at h
    · exact (Except.error.inj h).symm
    · cases h
  · exact (Except.error.inj h).symm

/-- The instant of a setting, if it is set. -/
def InstantIs (env : Environment) (setting : Setting) : Option Instant → Prop
  | none => lookup env setting = none
  | some i => ∃ text, lookup env setting = some text ∧
      Timestamp.Writes Timestamp.lenient text.toList i

theorem InstantIs.lookup_eq_none_iff {o : Option Instant} (h : InstantIs env setting o) :
    lookup env setting = none ↔ o = none := by
  cases o with
  | none => exact iff_of_true h rfl
  | some i =>
      obtain ⟨text, htext, -⟩ := h
      simp [htext]

theorem readInstant_eq_ok_iff {o : Option Instant} :
    readInstant env setting = .ok o ↔ InstantIs env setting o := by
  unfold readInstant InstantIs
  cases lookup env setting with
  | none => cases o <;> simp
  | some text =>
      cases hread : Timestamp.read text.toList with
      | error e => cases o <;> simp [← Timestamp.read_eq_ok_iff, hread]
      | ok i => cases o <;> simp [← Timestamp.read_eq_ok_iff, hread]

theorem readInstant_eq_error {e : SettingsError} (h : readInstant env setting = .error e) :
    ∃ flaw, e = .invalid setting flaw := by
  unfold readInstant at h
  split at h
  · cases h
  · split at h
    · cases h
    · exact ⟨_, (Except.error.inj h).symm⟩

theorem exists_readInstant_eq_ok_iff :
    (∃ o, readInstant env setting = .ok o) ↔ SaysInstant Timestamp.IsTimestamp env setting := by
  simp only [readInstant_eq_ok_iff, SaysInstant, Timestamp.IsTimestamp, Option.exists, InstantIs]
  cases lookup env setting <;> simp

/-! ### The readers check their points -/

theorem checks_trainId (env : Environment) : Checks env [.trainId] (readTrainId env) :=
  .single (exists_congr fun _ => readTrainId_eq_ok_iff) fun _ => readTrainId_eq_error

/-- A timestamp is checked as a point that is met if the setting is one. -/
theorem checks_instant
    (hmet : p.Met Timestamp.IsTimestamp env ↔ SaysInstant Timestamp.IsTimestamp env setting)
    (hblamed : ∀ flaw, p.Blamed (.invalid setting flaw)) :
    Checks env [p] (readInstant env setting) := by
  refine .single (exists_readInstant_eq_ok_iff.trans hmet.symm) fun e he => ?_
  obtain ⟨flaw, rfl⟩ := readInstant_eq_error he
  exact hblamed flaw

theorem checks_schedule (env : Environment) :
    Checks env [.departure, .arrival, .schedule] (readSchedule env) := by
  have hdeparture : Checks env [.departure] (readInstant env .departure) :=
    checks_instant Iff.rfl fun flaw => ⟨flaw, rfl⟩
  have harrival : Checks env [.arrival] (readInstant env .arrival) :=
    checks_instant Iff.rfl fun flaw => ⟨flaw, rfl⟩
  refine hdeparture.bind fun departure hd => harrival.bind fun arrival ha => ?_
  have hdnone := (readInstant_eq_ok_iff.mp hd).lookup_eq_none_iff
  have hanone := (readInstant_eq_ok_iff.mp ha).lookup_eq_none_iff
  refine .single ?_ fun e he => ?_
  · rw [Point.Met, hdnone, hanone]
    cases departure <;> cases arrival <;> simp [pure, Except.pure]
  · cases departure <;> cases arrival <;> cases he <;> rfl

/-- A number is checked as a point that is met if the setting is one within the bounds. -/
theorem checks_number {type : IntegerType} {default low high : Int} (hcovers : type.Covers low high)
    (hdefault : low ≤ default ∧ default ≤ high)
    (hmet : p.Met Timestamp.IsTimestamp env ↔ SaysWithin env setting low high)
    (hblamed : ∀ flaw, p.Blamed (.invalid setting flaw)) :
    Checks env [p] (readNumber env setting type default low high) := by
  refine .single ((exists_readNumber_eq_ok_iff hcovers hdefault).trans hmet.symm) fun e he => ?_
  obtain ⟨flaw, rfl⟩ := readNumber_eq_error he
  exact hblamed flaw

theorem covers_seconds : IntegerType.unsigned64.Covers 1 maxSeconds := by
  constructor <;> decide

theorem covers_minutes : IntegerType.signed64.Covers 0 maxMinutes := by
  constructor <;> decide

/-- All points are checked, in their order. -/
theorem checks_order (env : Environment) : Checks env Point.order (read env) := by
  have hinterval : Checks env [.interval] (readInterval env) :=
    checks_number covers_seconds (by decide) Iff.rfl fun flaw => ⟨flaw, rfl⟩
  have hbefore : Checks env [.before] (readBefore env) :=
    checks_number covers_minutes (by decide) Iff.rfl fun flaw => ⟨flaw, rfl⟩
  have hafter : Checks env [.after] (readAfter env) :=
    checks_number covers_minutes (by decide) Iff.rfl fun flaw => ⟨flaw, rfl⟩
  have htimeout : Checks env [.timeout] (readTimeout env) :=
    checks_number covers_seconds (by decide) Iff.rfl fun flaw => ⟨flaw, rfl⟩
  -- the points of the readers, put together, are all points in their order
  exact (checks_trainId env).bind fun _ _ => (checks_schedule env).bind fun _ _ =>
    hinterval.bind fun _ _ => hbefore.bind fun _ _ => hafter.bind fun _ _ =>
      htimeout.bind fun _ _ => .ok _

/-! ### What is made of an environment -/

/-- Departure and arrival are those that are said, if they are. -/
theorem instantIs_of_readSchedule {schedule : Option (Instant × Instant)}
    (h : readSchedule env = .ok schedule) :
    InstantIs env .departure (schedule.map Prod.fst) ∧
      InstantIs env .arrival (schedule.map Prod.snd) := by
  simp only [readSchedule, bind_eq_ok_iff] at h
  obtain ⟨departure, hdeparture, arrival, harrival, h⟩ := h
  rw [readInstant_eq_ok_iff] at hdeparture harrival
  cases departure <;> cases arrival <;> cases h <;> exact ⟨hdeparture, harrival⟩

/-- The settings are what the environment says, and the train is followed by them. A number that is
set counts as it is said, and a default counts only where nothing is set. -/
structure Follows (env : Environment) (s : Settings) : Prop where
  trainId : lookup env .trainId = some s.tracker.trainId
  departure : InstantIs env .departure s.tracker.departure
  arrival : InstantIs env .arrival s.tracker.arrival
  interval : ∃ n : Nat, ComesTo env .interval 60 n ∧ s.tracker.interval = .ofSeconds n
  before : ∃ n : Int, ComesTo env .before 30 n ∧ s.tracker.window.before.nanos = n * 60 * 1000000000
  after : ∃ n : Int, ComesTo env .after 10 n ∧ s.tracker.window.after.nanos = n * 60 * 1000000000
  timeout : ComesTo env .timeout 10 s.server.timeout
  baseUrl : s.server.baseUrl = (lookup env .baseUrl).getD Server.standard.baseUrl
  mockDirectory : s.mockDirectory = lookup env .mockDirectory

/-- The minutes of a day are never too many for a span. -/
theorem ofMinutes_nanos {n : Int} (h : 0 ≤ n ∧ n ≤ maxMinutes) :
    (Span.ofMinutes n).nanos = n * 60 * 1000000000 := by
  have hholds : Span.HoldsMinutes n := by
    unfold maxMinutes at h
    unfold Span.HoldsMinutes Span.maxMillis
    omega
  rw [Span.ofMinutes_of_holds hholds]
  rfl

theorem tracker_eq (s : Settings) :
    s.tracker =
      { trainId := s.trainId
        departure := s.schedule.map Prod.fst
        arrival := s.schedule.map Prod.snd
        interval := .ofSeconds s.interval
        budget := TrackerConfig.standardBudget
        window := s.window } := by
  unfold tracker
  cases s.schedule <;> rfl

theorem follows_of_read {s : Settings} (h : read env = .ok s) : s.Follows env := by
  simp only [read, bind_eq_ok_iff] at h
  obtain ⟨trainId, htrainId, schedule, hschedule, interval, hinterval, before, hbefore, after,
    hafter, timeout, htimeout, h⟩ := h
  obtain rfl := Except.ok.inj h
  obtain ⟨hdeparture, harrival⟩ := instantIs_of_readSchedule hschedule
  obtain ⟨hinterval, hpos, -⟩ := (readNumber_eq_ok_iff covers_seconds (by decide)).mp hinterval
  obtain ⟨hbefore, hbeforeBounds⟩ := (readNumber_eq_ok_iff covers_minutes (by decide)).mp hbefore
  obtain ⟨hafter, hafterBounds⟩ := (readNumber_eq_ok_iff covers_minutes (by decide)).mp hafter
  obtain ⟨htimeout, htimeoutPos, -⟩ := (readNumber_eq_ok_iff covers_seconds (by decide)).mp htimeout
  lift interval to Nat using by omega
  lift timeout to Nat using by omega
  exact
    { trainId := by
        rw [tracker_eq]
        exact (readTrainId_eq_ok_iff.mp htrainId).1
      departure := by
        rw [tracker_eq]
        exact hdeparture
      arrival := by
        rw [tracker_eq]
        exact harrival
      interval := ⟨interval, hinterval, by rw [tracker_eq, Int.toNat_natCast]⟩
      before := ⟨before, hbefore, by rw [tracker_eq]; exact ofMinutes_nanos hbeforeBounds⟩
      after := ⟨after, hafter, by rw [tracker_eq]; exact ofMinutes_nanos hafterBounds⟩
      timeout := htimeout
      baseUrl := rfl
      mockDirectory := rfl }

/-- Nothing is looked at but the settings. -/
theorem read_congr {env' : Environment}
    (h : ∀ setting : Setting, env' setting.name = env setting.name) : read env' = read env := by
  have hlookup : lookup env' = lookup env := funext h
  simp only [read, readTrainId, readSchedule, readInstant, readInterval, readBefore, readAfter,
    readTimeout, readNumber, hlookup]

/-! ### Timestamps by RFC 3339 -/

/-- A setting is a timestamp by RFC 3339 exactly if it is one that is read, and a strict one. -/
theorem saysInstant_isRfc3339_iff {announced : Int → Prop} :
    SaysInstant (Timestamp.IsRfc3339 announced) env setting ↔
      SaysInstant Timestamp.IsTimestamp env setting ∧ SaysStrictly announced env setting := by
  constructor
  · intro h
    constructor
    · intro text htext
      obtain ⟨i, hi, -⟩ := Timestamp.isRfc3339_iff.mp (h text htext)
      exact ⟨i, hi⟩
    · intro text i htext hi
      obtain ⟨i', hi', hstrict⟩ := Timestamp.isRfc3339_iff.mp (h text htext)
      obtain rfl : i = i' := Except.ok.inj <|
        (Timestamp.read_eq_ok_iff.mpr hi).symm.trans (Timestamp.read_eq_ok_iff.mpr hi')
      exact hstrict
  · rintro ⟨hread, hstrict⟩ text htext
    obtain ⟨i, hi⟩ := hread text htext
    exact Timestamp.isRfc3339_iff.mpr ⟨i, hi, hstrict text i htext hi⟩

/-- Only departure and arrival depend on what timestamps are. -/
theorem Point.Met.of_instants {valid valid' : List Char → Prop}
    (hdeparture : SaysInstant valid env .departure → SaysInstant valid' env .departure)
    (harrival : SaysInstant valid env .arrival → SaysInstant valid' env .arrival)
    (h : p.Met valid env) : p.Met valid' env := by
  cases p with
  | departure => exact hdeparture h
  | arrival => exact harrival h
  | _ => exact h

/-- All points are met by RFC 3339 exactly if they are met as timestamps are read, and both timestamps
are strict. -/
theorem forall_met_isRfc3339_iff {announced : Int → Prop} :
    (∀ p : Point, p.Met (Timestamp.IsRfc3339 announced) env) ↔
      (∀ p : Point, p.Met Timestamp.IsTimestamp env) ∧ SaysStrictly announced env .departure ∧
        SaysStrictly announced env .arrival := by
  constructor
  · intro h
    have hread : ∀ p : Point, p.Met Timestamp.IsTimestamp env := fun p =>
      (h p).of_instants (fun hs => (saysInstant_isRfc3339_iff.mp hs).1) fun hs =>
        (saysInstant_isRfc3339_iff.mp hs).1
    exact ⟨hread, (saysInstant_isRfc3339_iff.mp (h .departure)).2,
      (saysInstant_isRfc3339_iff.mp (h .arrival)).2⟩
  · rintro ⟨h, hdeparture, harrival⟩ p
    exact (h p).of_instants (fun hs => saysInstant_isRfc3339_iff.mpr ⟨hs, hdeparture⟩) fun hs =>
      saysInstant_isRfc3339_iff.mpr ⟨hs, harrival⟩

/-- **An environment is accepted as a whole or not at all.** It is accepted exactly if the train is
set and not blank, departure and arrival are timestamps as they are read and set together, and each
number that is set is one within its bounds. Otherwise the error is about the first of these points,
in their order, that is not met. What is accepted is followed as it is said, and a default counts only
for what is not set. Nothing but the nine settings makes a difference. Where timestamps are meant by
RFC 3339, all points are met exactly if the environment is accepted and there is neither a blank nor a
true minus sign in them, nor a second 60 that was not announced. -/
theorem read_checks_in_order (env : Environment) :
    ((∃ s, read env = .ok s) ↔ ∀ p : Point, p.Met Timestamp.IsTimestamp env) ∧
      (∀ e, read env = .error e →
        ∃ p, Point.FirstUnmet Timestamp.IsTimestamp env Point.order p ∧ p.Blamed e) ∧
      (∀ s, read env = .ok s → s.Follows env) ∧
      (∀ env' : Environment, (∀ setting : Setting, env' setting.name = env setting.name) →
        read env' = read env) ∧
      ∀ announced : Int → Prop, (∀ p : Point, p.Met (Timestamp.IsRfc3339 announced) env) ↔
        (∃ s, read env = .ok s) ∧ SaysStrictly announced env .departure ∧
          SaysStrictly announced env .arrival := by
  obtain ⟨haccepts, hblames⟩ := checks_order env
  have hall : (∃ s, read env = .ok s) ↔ ∀ p : Point, p.Met Timestamp.IsTimestamp env :=
    haccepts.trans ⟨fun h p => h p p.mem_order, fun h p _ => h p⟩
  refine ⟨hall, hblames, fun _ => follows_of_read, fun _ => read_congr, fun announced => ?_⟩
  rw [hall]
  exact forall_met_isRfc3339_iff

/-- The environment of these variables. -/
def ofVariables (vars : List (String × String)) : Environment := (List.lookup · vars)

/-- An environment in which hardly anything is written in the usual way. -/
def oddVariables : Environment := ofVariables
  [("TRENORD_TRAIN_ID", " 10512 "), ("TRENORD_DEPARTURE_TIME", "2024-03-15t23:59:60.5-23:59"),
    ("TRENORD_ARRIVAL_TIME", "2024-03-17 00:10:00z"), ("TRENORD_POLL_INTERVAL_SECS", "\t+0086400 "),
    ("TRENORD_POLL_BEFORE_DEPARTURE_MINS", "-0"), ("TRENORD_POLL_AFTER_ARRIVAL_MINS", "1440")]

/-- An environment with three points that are not met. -/
def flawedVariables : Environment := ofVariables
  [("TRENORD_TRAIN_ID", "10512"), ("TRENORD_DEPARTURE_TIME", "2024-03-15T09:00:00Z"),
    ("TRENORD_POLL_INTERVAL_SECS", "0"), ("TRENORD_POLL_AFTER_ARRIVAL_MINS", "1441")]

/-- Odd as they are, the variables are accepted, and others beside them make no difference. As there
is a blank in one of them, they are not in order by RFC 3339. Of the points that are not met in the
other environment, the schedule comes first. -/
theorem read_checks_in_order_oddVariables :
    (∃ s, read oddVariables = .ok s ∧ s.Follows oddVariables ∧ s.tracker.trainId = " 10512 " ∧
        s.tracker.departure = some ⟨1710633539, 1500000000⟩ ∧
        s.tracker.interval = .ofSeconds 86400 ∧ s.tracker.window = ⟨⟨0⟩, ⟨86400000000000⟩⟩) ∧
      (∃ p, Point.FirstUnmet Timestamp.IsTimestamp flawedVariables Point.order p ∧
        p.Blamed .partialSchedule) ∧
      read (fun name => if name = "PATH" then some "/bin" else oddVariables name) =
        read oddVariables ∧
      ∀ announced, ¬∀ p : Point, p.Met (Timestamp.IsRfc3339 announced) oddVariables := by
  obtain ⟨-, -, hfollows, hcongr, hstrict⟩ := read_checks_in_order oddVariables
  obtain ⟨-, hblames, -⟩ := read_checks_in_order flawedVariables
  have hread : read oddVariables = .ok
      { trainId := " 10512 "
        schedule := some (⟨1710633539, 1500000000⟩, .ofSeconds 1710634200)
        interval := 86400
        window := .ofMinutes 0 1440
        server := .standard
        mockDirectory := none } := by decide +kernel
  have hflawed : read flawedVariables = .error .partialSchedule := by decide +kernel
  refine ⟨⟨_, hread, hfollows _ hread, rfl, rfl, rfl, rfl⟩, hblames _ hflawed, hcongr _ ?_, ?_⟩
  · intro setting
    cases setting <;> rfl
  · intro announced hmet
    obtain ⟨-, -, harrival⟩ := (hstrict announced).mp hmet
    obtain ⟨text, htext, hwrites⟩ := (hfollows _ hread).arrival
    obtain rfl := Option.some.inj htext
    exact absurd (harrival _ _ rfl hwrites).1 (by decide)

/-- An environment with timestamps that have the true minus sign. -/
def trueMinus : Environment := ofVariables
  [("TRENORD_TRAIN_ID", "10512"), ("TRENORD_DEPARTURE_TIME", "2024-03-15T09:00:00−01:00"),
    ("TRENORD_ARRIVAL_TIME", "2024-03-15T10:00:00−01:00")]

/-- By RFC 3339 a minus sign is a hyphen, and yet the true minus sign is accepted. -/
theorem true_minus_accepted :
    (∃ s, read trueMinus = .ok s) ∧
      ∀ announced, ¬∀ p : Point, p.Met (Timestamp.IsRfc3339 announced) trueMinus := by
  have hread : read trueMinus = .ok
      { trainId := "10512"
        schedule := some (.ofSeconds 1710496800, .ofSeconds 1710500400)
        interval := 60
        window := .standard
        server := .standard
        mockDirectory := none } := by decide +kernel
  refine ⟨⟨_, hread⟩, fun announced hmet => ?_⟩
  obtain ⟨i, -, -, hminus, -⟩ := Timestamp.isRfc3339_iff.mp (hmet .departure _ rfl)
  exact absurd hminus (by decide)

end RailWatch.Settings
