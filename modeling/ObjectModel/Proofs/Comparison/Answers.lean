import ObjectModel.Proofs.MissingHook

/-! # Comparing values

The methods of `Comparable` come down to what the values answer to `<=>`. Values are compared quietly if the states in
which a comparison may end are all as good as the one in which it began: the values answer the same in all of them. Then
what a method of comparison comes to can be told from the answers. If these are integers whose sign is a total preorder,
the methods agree with each other, and a value is brought between two bounds as it should be.
-/

namespace ObjectModel

/-! ## Orders -/

/-- The order that an answer of `<=>` tells, none unless it is an integer. -/
def Value.order? : Value → Option Ordering
  | .int number => some (compare number 0)
  | _ => none

theorem Value.order_eq_none_iff {value : Value} : value.order? = none ↔ ∀ number, value ≠ .int number := by
  cases value with
  | int number => exact iff_of_false nofun fun hother => hother number rfl
  | _ => exact iff_of_true rfl fun _ => nofun

/-- The four methods that tell the order of two values. -/
inductive Comparison
  | less
  | lessOrEqual
  | greater
  | greaterOrEqual

namespace Comparison

def name : Comparison → String
  | less => "<"
  | lessOrEqual => "<="
  | greater => ">"
  | greaterOrEqual => ">="

def routine : Comparison → ComparableRoutine
  | less => .less
  | lessOrEqual => .lessOrEqual
  | greater => .greater
  | greaterOrEqual => .greaterOrEqual

/-- Whether a method answers true at an order. -/
def accepts : Comparison → Ordering → Bool
  | less, order => order = .lt
  | lessOrEqual, order => order ≠ .gt
  | greater, order => order = .gt
  | greaterOrEqual, order => order ≠ .lt

/-- A method answers true to just one or two signs of a number. -/
theorem accepts_compare (comparison : Comparison) (number : Int) :
    comparison.accepts (compare number 0) = match comparison with
      | less => decide (number < 0)
      | lessOrEqual => decide (number < 0) || decide (number = 0)
      | greater => decide (0 < number)
      | greaterOrEqual => decide (0 < number) || decide (number = 0) := by
  rcases Int.lt_trichotomy number 0 with hless | hzero | hgreater
  · rw [Int.compare_eq_lt.mpr hless]
    cases comparison <;> simp [accepts] <;> omega
  · subst hzero
    cases comparison <;> rfl
  · rw [Int.compare_eq_gt.mpr hgreater]
    cases comparison <;> simp [accepts] <;> omega

end Comparison

/-- The sign of the numbers is a total preorder of the values: it turns with the two sides, and what is not above a value
is not above what this is not above. -/
structure TotalPreorder (values : Value → Prop) (number : Value → Value → Int) : Prop where
  turns : ∀ {first second}, values first → values second →
    (number second first).sign = -(number first second).sign
  passes : ∀ {first second third}, values first → values second → values third →
    number first second ≤ 0 → number second third ≤ 0 → number first third ≤ 0

theorem TotalPreorder.self {values : Value → Prop} {number : Value → Value → Int}
    (horder : TotalPreorder values number) {value : Value} (hvalue : values value) : number value value = 0 := by
  have hturns := horder.turns hvalue hvalue
  exact Int.sign_eq_zero_iff_zero.mp (by omega)

theorem TotalPreorder.pos_iff {values : Value → Prop} {number : Value → Value → Int}
    (horder : TotalPreorder values number) {first second : Value} (hfirst : values first)
    (hsecond : values second) : 0 < number second first ↔ number first second < 0 := by
  have hturns := horder.turns hfirst hsecond
  rw [← Int.sign_eq_one_iff_pos, ← Int.sign_eq_neg_one_iff_neg]
  omega

namespace State

variable {quiet : State → Prop} {state : State} {values : Value → Prop} {pairs : Value → Value → Prop}
  {answer : Value → Value → Value} {depth : Nat}

/-! ## Quiet actions -/

section

variable {α β : Type} {act : Action α} {next : α → Action β} {outcome : State → Except Halt α}

/-- An action comes to an outcome, which may depend on the state in which it ends, and that is a quiet one. -/
def Ends (state : State) (quiet : State → Prop) (act : Action α) (outcome : State → Except Halt α) : Prop :=
  quiet (state.after act) ∧ state.result act = outcome (state.after act)

theorem Ends.of_run {reached : State} (hquiet : quiet reached)
    (hrun : act.run.run state = (outcome reached, reached)) : state.Ends quiet act outcome := by
  rw [Ends, after, result, hrun]
  exact ⟨hquiet, rfl⟩

theorem Ends.run (hends : state.Ends quiet act outcome) :
    act.run.run state = (outcome (state.after act), state.after act) :=
  Prod.ext hends.2 rfl

theorem Ends.bind {value : α} {last : State → Except Halt β}
    (hact : state.Ends quiet act fun _ => .ok value)
    (hnext : ∀ reached, quiet reached → reached.Ends quiet (next value) last) :
    state.Ends quiet (act >>= next) last := by
  have hlast := hnext _ hact.1
  exact .of_run hlast.1 ((run_bind_of_ok hact.run next).trans hlast.run)

theorem Ends.bind_error {halt : State → Halt} (hact : state.Ends quiet act fun reached => .error (halt reached)) :
    state.Ends quiet (act >>= next) fun reached => .error (halt reached) := by
  refine .of_run hact.1 ?_
  rw [run_bind, hact.run]

end

/-! ## Builtin methods -/

/-- The routine of the public builtin method that a value has under a name. -/
def routine? (state : State) (value : Value) (name : String) : Option Routine :=
  (state.choice? value name).bind fun entry =>
    if entry.isPrivate then none
    else match entry.body with
      | .builtin builtin _ => some builtin.routine
      | _ => none

/-- A call of a builtin method carries out its routine. -/
theorem Searchable.run_dispatchName_routine (hsearchable : state.Searchable) {value : Value}
    (hvalue : state.Has value) {name : String} {routine : Routine}
    (hroutine : state.routine? value name = some routine) (depth : Nat) (checked : Bool)
    (arguments : List Value) :
    (dispatchName (runBody (depth + 1)) checked value name arguments).run.run state =
      (routine.perform (runBody depth) value arguments).run.run (state.start value).2 := by
  obtain ⟨entry, hchoice, hentry⟩ := Option.bind_eq_some_iff.mp hroutine
  obtain ⟨symbol, hname, -⟩ := Option.bind_eq_some_iff.mp hchoice
  split at hentry
  · cases hentry
  next hpublic =>
    have hallowed : (checked && entry.isPrivate) = false := by
      rw [Bool.not_eq_true] at hpublic
      rw [hpublic, Bool.and_false]
    rw [hsearchable.run_dispatchName hvalue hchoice _ hallowed, hsearchable.after_findMethod hvalue hname]
    split at hentry
    next builtin installation hbody =>
      obtain rfl := Option.some.inj hentry
      rw [hbody]
      rfl
    · cases hentry

/-- A value has the methods of `Comparable`. -/
structure IsComparable (state : State) (value : Value) : Prop where
  comparison : ∀ comparison : Comparison,
    state.routine? value comparison.name = some (.comparable comparison.routine)
  between : state.routine? value "between?" = some (.comparable .between)
  clamp : state.routine? value "clamp" = some (.comparable .clamp)

/-! ## Values that are compared -/

/-- Values that have the methods of `Comparable`, and pairs of which the first value answers to `<=>` with the second one
without an effect that matters: in each of the quiet states the answers are the same, and a call of `<=>` and the search for
a method of a value lead from one to another. -/
structure Compares (depth : Nat) (values : Value → Prop) (pairs : Value → Value → Prop) (quiet : State → Prop)
    (answer : Value → Value → Value) : Prop where
  searchable : ∀ {state}, quiet state → state.Searchable
  has : ∀ {state value}, quiet state → values value → state.Has value
  comparable : ∀ {state value}, quiet state → values value → state.IsComparable value
  start : ∀ {state value}, quiet state → values value → quiet (state.start value).2
  answers : ∀ {state first second}, quiet state → pairs first second →
    state.Ends quiet (send (runBody depth) first "<=>" [second]) fun _ => .ok (answer first second)

/-- How a comparison fails. -/
def incomparable (first second : Value) (state : State) : Halt :=
  .fault (.argument ("comparison of " ++ state.className first ++ " with " ++ state.inspect second ++ " failed"))

/-- How a value fails to be brought between two bounds. -/
def crossedBounds : Halt :=
  .fault (.argument "min argument must be less than or equal to max argument")

/-- In every quiet state the call of a method comes to an outcome. -/
def Yields (depth : Nat) (quiet : State → Prop) (value : Value) (name : String) (arguments : List Value)
    (outcome : State → Except Halt Value) : Prop :=
  ∀ state, quiet state → state.Ends quiet (invoke (runBody (depth + 1)) value name arguments) outcome

/-- What an order that has to be there comes to. -/
def judged {α : Type} (first second : Value) (judge : Ordering → State → Except Halt α) :
    Option Ordering → State → Except Halt α
  | some order => judge order
  | none => fun state => .error (incomparable first second state)

/-- All pairs of the values are compared, and the answers are numbers whose signs are a total preorder. -/
structure Orders (values : Value → Prop) (pairs : Value → Value → Prop) (answer : Value → Value → Value)
    (number : Value → Value → Int) : Prop extends TotalPreorder values number where
  pair : ∀ {first second}, values first → values second → pairs first second
  answer : ∀ {first second}, values first → values second → answer first second = .int (number first second)

namespace Compares

variable (hcompares : Compares depth values pairs quiet answer) {first second : Value}

include hcompares

section

variable (hpair : pairs first second)

include hpair

theorem ends_compareBySend (hquiet : quiet state) :
    state.Ends quiet (Builtin.compareBySend (runBody depth) first second)
      fun _ => .ok (answer first second).order? := by
  refine (hcompares.answers hquiet hpair).bind fun reached hreached => .of_run hreached ?_
  cases answer first second <;> rfl

theorem ends_ordered_bind {α : Type} {next : Ordering → Action α}
    {judge : Ordering → State → Except Halt α} (hquiet : quiet state)
    (hnext : ∀ order reached, quiet reached → reached.Ends quiet (next order) (judge order)) :
    state.Ends quiet (Builtin.ordered (runBody depth) first second >>= next)
      (judged first second judge (answer first second).order?) := by
  have hanswer := hcompares.ends_compareBySend hpair hquiet
  cases horder : (answer first second).order? with
  | some order =>
      rw [horder] at hanswer
      have hordered : state.Ends quiet (Builtin.ordered (runBody depth) first second) fun _ => .ok order :=
        hanswer.bind fun reached hreached => .of_run hreached rfl
      exact hordered.bind (hnext order)
  | none =>
      rw [horder] at hanswer
      have hordered : state.Ends quiet (Builtin.ordered (runBody depth) first second)
          fun reached => .error (incomparable first second reached) :=
        hanswer.bind fun reached hreached => .of_run hreached rfl
      exact hordered.bind_error

end

/-! ## What the methods come to -/

theorem yields_routine {value : Value} {name : String} {routine : Routine} {arguments : List Value}
    {outcome : State → Except Halt Value} (hvalue : values value)
    (hroutine : ∀ state, quiet state → state.routine? value name = some routine)
    (hends : ∀ state, quiet state →
      state.Ends quiet (routine.perform (runBody depth) value arguments) outcome) :
    Yields depth quiet value name arguments outcome := by
  intro state hquiet
  -- the search for the method may have made a metaclass, and the routine begins once it is there
  have hlast := hends _ (hcompares.start hquiet hvalue)
  refine .of_run hlast.1 (Eq.trans ?_ hlast.run)
  exact (hcompares.searchable hquiet).run_dispatchName_routine (hcompares.has hquiet hvalue)
    (hroutine state hquiet) depth true arguments

theorem yields_comparison (hfirst : values first) (hpair : pairs first second) (comparison : Comparison) :
    Yields depth quiet first comparison.name [second]
      (judged first second (fun order _ => .ok (.bool (comparison.accepts order)))
        (answer first second).order?) := by
  refine hcompares.yields_routine hfirst
    (fun state hquiet => (hcompares.comparable hquiet hfirst).comparison comparison) fun state hquiet => ?_
  have hjudged : state.Ends quiet
      (Builtin.ordered (runBody depth) first second >>= fun order =>
        pure (Value.bool (comparison.accepts order)))
      (judged first second (fun order _ => .ok (.bool (comparison.accepts order)))
        (answer first second).order?) :=
    hcompares.ends_ordered_bind hpair hquiet fun order reached hreached => .of_run hreached rfl
  cases comparison <;> exact hjudged

theorem yields_equal (hfirst : values first) (hpair : pairs first second)
    (hroutine : ∀ state, quiet state → state.routine? first "==" = some (.comparable .equal)) :
    Yields depth quiet first "==" [second]
      fun _ => .ok (.bool (first = second || (answer first second).order? = some .eq)) := by
  refine hcompares.yields_routine hfirst hroutine fun state hquiet => ?_
  have hperform : (Routine.comparable .equal).perform (runBody depth) first [second] =
      if first = second then pure (.bool true)
      else Builtin.compareBySend (runBody depth) first second >>= fun order =>
        pure (.bool (order = some .eq)) := rfl
  rw [hperform]
  by_cases hsame : first = second
  · rw [if_pos hsame, decide_eq_true hsame, Bool.true_or]
    exact .of_run hquiet rfl
  · rw [if_neg hsame, decide_eq_false hsame, Bool.false_or]
    exact (hcompares.ends_compareBySend hpair hquiet).bind fun reached hreached => .of_run hreached rfl

section

variable {value least greatest : Value} (hvalue : values value) (habove : pairs value least)
  (hbelow : pairs value greatest)

include hvalue habove hbelow

/-- The upper bound is only looked at if there is an answer for the lower one. -/
theorem yields_between : Yields depth quiet value "between?" [least, greatest]
    (judged value least (fun above =>
      judged value greatest (fun below _ => .ok (.bool (above ≠ .lt && below ≠ .gt)))
        (answer value greatest).order?)
      (answer value least).order?) := by
  refine hcompares.yields_routine hvalue
    (fun state hquiet => (hcompares.comparable hquiet hvalue).between) fun state hquiet => ?_
  refine hcompares.ends_ordered_bind habove hquiet fun above reached hreached => ?_
  exact hcompares.ends_ordered_bind hbelow hreached fun below reached hreached => .of_run hreached rfl

/-- The bounds are compared with each other first, and the upper one is only looked at if the value is not below the
lower one. -/
theorem yields_clamp (hlimits : pairs least greatest) : Yields depth quiet value "clamp" [least, greatest]
    (judged least greatest (fun bounds =>
      if bounds = .gt then fun _ => .error crossedBounds
      else judged value least (fun above =>
        if above = .lt then fun _ => .ok least
        else judged value greatest (fun below _ => .ok (if below = .gt then greatest else value))
          (answer value greatest).order?)
        (answer value least).order?)
      (answer least greatest).order?) := by
  refine hcompares.yields_routine hvalue
    (fun state hquiet => (hcompares.comparable hquiet hvalue).clamp) fun state hquiet => ?_
  refine hcompares.ends_ordered_bind hlimits hquiet fun bounds reached hreached => ?_
  by_cases hcrossed : bounds = .gt
  · subst hcrossed
    exact .of_run hreached rfl
  -- each comparison begins where the one before it has ended
  rw [if_neg hcrossed, if_neg hcrossed]
  refine hcompares.ends_ordered_bind habove hreached fun above reached hreached => ?_
  by_cases hless : above = .lt
  · subst hless
    exact .of_run hreached rfl
  rw [if_neg hless, if_neg hless]
  refine hcompares.ends_ordered_bind hbelow hreached fun below reached hreached => ?_
  by_cases hgreater : below = .gt
  · subst hgreater
    exact .of_run hreached rfl
  · rw [if_neg hgreater, if_neg hgreater]
    exact .of_run hreached rfl

end

/-! ## Values whose answers are integers -/

section

variable {number : Value → Value → Int} (horders : Orders values pairs answer number)

include horders

/-- The methods that tell the order of two values agree with each other. -/
theorem comparisons_agree (hfirst : values first) (hsecond : values second) :
    ∃ less greater : Bool, [less, greater, decide (number first second = 0)].count true = 1 ∧
      Yields depth quiet first "<" [second] (fun _ => .ok (.bool less)) ∧
      Yields depth quiet first ">" [second] (fun _ => .ok (.bool greater)) ∧
      Yields depth quiet first "<=" [second] (fun _ => .ok (.bool (less || number first second = 0))) ∧
      Yields depth quiet first ">=" [second] fun _ => .ok (.bool (greater || number first second = 0)) := by
  have hyields := hcompares.yields_comparison hfirst (horders.pair hfirst hsecond)
  simp only [horders.answer hfirst hsecond, Value.order?, judged, Comparison.accepts_compare] at hyields
  refine ⟨number first second < 0, 0 < number first second, ?_, hyields .less, hyields .greater,
    hyields .lessOrEqual, hyields .greaterOrEqual⟩
  rcases Int.lt_trichotomy (number first second) 0 with hless | hzero | hgreater
  · simp [hless, Int.ne_of_lt hless, Int.not_lt.mpr (Int.le_of_lt hless)]
  · simp [hzero]
  · simp [hgreater, Int.ne_of_gt hgreater, Int.not_lt.mpr (Int.le_of_lt hgreater)]

variable {value least greatest : Value} (hvalue : values value) (hleast : values least)
  (hgreatest : values greatest)

include hvalue hleast hgreatest

theorem yields_between_of_orders : Yields depth quiet value "between?" [least, greatest]
    fun _ => .ok (.bool (0 ≤ number value least && number value greatest ≤ 0)) := by
  have hyields := hcompares.yields_between hvalue (horders.pair hvalue hleast) (horders.pair hvalue hgreatest)
  rw [horders.answer hvalue hleast, horders.answer hvalue hgreatest] at hyields
  have habove : compare (number value least) 0 ≠ .lt ↔ 0 ≤ number value least := by
    rw [ne_eq, Int.compare_eq_lt, Int.not_lt]
  have hbelow : compare (number value greatest) 0 ≠ .gt ↔ number value greatest ≤ 0 := by
    rw [ne_eq, Int.compare_eq_gt, Int.not_lt]
  simpa only [Value.order?, judged, habove, hbelow] using hyields

theorem yields_clamp_of_orders : Yields depth quiet value "clamp" [least, greatest] fun _ =>
    if 0 < number least greatest then .error crossedBounds
    else .ok (if number value least < 0 then least
      else if 0 < number value greatest then greatest else value) := by
  have hyields := hcompares.yields_clamp hvalue (horders.pair hvalue hleast) (horders.pair hvalue hgreatest)
    (horders.pair hleast hgreatest)
  rw [horders.answer hleast hgreatest, horders.answer hvalue hleast, horders.answer hvalue hgreatest]
    at hyields
  simp only [Value.order?, judged, Int.compare_eq_gt, Int.compare_eq_lt] at hyields
  split
  next hbounds => simpa only [if_pos hbounds] using hyields
  next hbounds =>
    rw [if_neg hbounds] at hyields
    split
    next habove => simpa only [if_pos habove] using hyields
    next habove => simpa only [if_neg habove] using hyields

/-- A value is brought between two bounds unless they are the wrong way round. -/
theorem clamp_agrees : ∃ crossed inside : Bool,
    Yields depth quiet least ">" [greatest] (fun _ => .ok (.bool crossed)) ∧
    Yields depth quiet value "between?" [least, greatest] (fun _ => .ok (.bool inside)) ∧
    (crossed = true → Yields depth quiet value "clamp" [least, greatest] fun _ => .error crossedBounds) ∧
    (crossed = false → ∃ result ∈ [value, least, greatest],
      Yields depth quiet value "clamp" [least, greatest] (fun _ => .ok result) ∧
      (result = value ↔ inside = true) ∧
      Yields depth quiet result "between?" [least, greatest] fun _ => .ok (.bool true)) := by
  have hclamp := hcompares.yields_clamp_of_orders horders hvalue hleast hgreatest
  have hbetween {other : Value} (hother : values other) :=
    hcompares.yields_between_of_orders horders hother hleast hgreatest
  have hgreater := hcompares.yields_comparison hleast (horders.pair hleast hgreatest) .greater
  simp only [horders.answer hleast hgreatest, Value.order?, judged, Comparison.accepts_compare] at hgreater
  refine ⟨_, _, hgreater, hbetween hvalue, fun hcrossed => ?_, fun hcrossed => ?_⟩
  · simpa only [if_pos (of_decide_eq_true hcrossed)] using hclamp
  have hbounds := of_decide_eq_false hcrossed
  simp only [if_neg hbounds] at hclamp
  by_cases hbelow : number value least < 0
  · simp only [if_pos hbelow] at hclamp
    refine ⟨least, by simp, hclamp, iff_of_false ?_ (by simp [hbelow]), ?_⟩
    · rintro rfl
      exact absurd (horders.self hvalue) (Int.ne_of_lt hbelow)
    · simpa [horders.self hleast, Int.not_lt.mp hbounds] using hbetween hleast
  simp only [if_neg hbelow] at hclamp
  by_cases habove : 0 < number value greatest
  · simp only [if_pos habove] at hclamp
    refine ⟨greatest, by simp, hclamp, iff_of_false ?_ (by simp [habove]), ?_⟩
    · rintro rfl
      exact absurd (horders.self hvalue) (Int.ne_of_gt habove)
    · -- the bounds are compared the other way round
      have hturned : 0 ≤ number greatest least :=
        Int.not_lt.mp (mt (horders.pos_iff hgreatest hleast).mpr hbounds)
      simpa [horders.self hgreatest, hturned] using hbetween hgreatest
  · simp only [if_neg habove] at hclamp
    have hinside := And.intro (Int.not_lt.mp hbelow) (Int.not_lt.mp habove)
    refine ⟨value, by simp, hclamp, iff_of_true rfl (by simp [hinside]), ?_⟩
    simpa [hinside] using hbetween hvalue

end

/-! ## Values whose answers are no integers -/

/-- Two values without an order are not compared, but they are told to be different. -/
theorem comparisons_fail (hfirst : values first) (hpair : pairs first second)
    (hanswer : ∀ number, answer first second ≠ .int number) :
    (∀ comparison : Comparison, Yields depth quiet first comparison.name [second]
      fun reached => .error (incomparable first second reached)) ∧
    (first ≠ second → (∀ state, quiet state → state.routine? first "==" = some (.comparable .equal)) →
      Yields depth quiet first "==" [second] fun _ => .ok (.bool false)) := by
  have hnone := Value.order_eq_none_iff.mpr hanswer
  refine ⟨fun comparison => ?_, fun hne hroutine => ?_⟩
  · have hyields := hcompares.yields_comparison hfirst hpair comparison
    rwa [hnone] at hyields
  · have hyields := hcompares.yields_equal hfirst hpair hroutine
    rwa [hnone, decide_eq_false hne] at hyields

variable {value least greatest : Value} (hvalue : values value) (habove : pairs value least)
  (hbelow : pairs value greatest)

include hvalue habove hbelow

theorem between_fails :
    ((∀ number, answer value least ≠ .int number) →
      Yields depth quiet value "between?" [least, greatest]
        fun reached => .error (incomparable value least reached)) ∧
    ∀ above, answer value least = .int above → (∀ number, answer value greatest ≠ .int number) →
      Yields depth quiet value "between?" [least, greatest]
        fun reached => .error (incomparable value greatest reached) := by
  have hyields := hcompares.yields_between hvalue habove hbelow
  refine ⟨fun hnone => ?_, fun above habove hnone => ?_⟩
  · rwa [Value.order_eq_none_iff.mpr hnone] at hyields
  · rwa [habove, Value.order_eq_none_iff.mpr hnone] at hyields

theorem clamp_fails (hlimits : pairs least greatest) :
    ((∀ number, answer least greatest ≠ .int number) →
      Yields depth quiet value "clamp" [least, greatest]
        fun reached => .error (incomparable least greatest reached)) ∧
    ∀ bounds, answer least greatest = .int bounds → bounds ≤ 0 →
      ((∀ number, answer value least ≠ .int number) →
        Yields depth quiet value "clamp" [least, greatest]
          fun reached => .error (incomparable value least reached)) ∧
      ∀ above, answer value least = .int above → 0 ≤ above → (∀ number, answer value greatest ≠ .int number) →
        Yields depth quiet value "clamp" [least, greatest]
          fun reached => .error (incomparable value greatest reached) := by
  have hyields := hcompares.yields_clamp hvalue habove hbelow hlimits
  refine ⟨fun hnone => ?_, fun bounds hbounds hleft => ⟨fun hnone => ?_, fun above habove hright hnone => ?_⟩⟩
  · rwa [Value.order_eq_none_iff.mpr hnone] at hyields
  · rw [hbounds, Value.order_eq_none_iff.mpr hnone] at hyields
    simpa [Value.order?, judged, Int.compare_eq_gt, Int.not_lt.mpr hleft] using hyields
  · rw [hbounds, habove, Value.order_eq_none_iff.mpr hnone] at hyields
    simpa [Value.order?, judged, Int.compare_eq_gt, Int.compare_eq_lt, Int.not_lt.mpr hleft,
      Int.not_lt.mpr hright] using hyields

end Compares

end State

end ObjectModel
