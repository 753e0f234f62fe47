import Mathlib
import Downlink.Proofs.LineCode.SubBlocks

/-!
# The balance of a line

The running disparity tells how many more ones than zeros were sent: none when it is negative, two
when it is positive. Each sub-block leads from one to the other within narrow bounds, so that the
same holds of a session of any length. Raw values that are refused send nothing.
-/

namespace Downlink

/-- Ones minus zeros. -/
def balance (bits : List Bool) : Int := (bits.count true : Int) - bits.count false

theorem balance_append (xs ys : List Bool) : balance (xs ++ ys) = balance xs + balance ys := by
  simp only [balance, List.count_append, Nat.cast_add]
  omega

/-- The balance that a disparity stands for. -/
def Disparity.balance : Disparity → Int
  | negative => 0
  | positive => 2

namespace LineCode

/-- Bits lead from one disparity to another, and the balance behind each of them stays between -2
and 4. -/
structure Leads (rd : Disparity) (bits : List Bool) (next : Disparity) : Prop where
  total : rd.balance + balance bits = next.balance
  within : ∀ k ≤ bits.length,
    -2 ≤ rd.balance + balance (bits.take k) ∧ rd.balance + balance (bits.take k) ≤ 4

instance (rd : Disparity) (bits : List Bool) (next : Disparity) : Decidable (Leads rd bits next) :=
  decidable_of_iff
    (rd.balance + balance bits = next.balance ∧ ∀ k ≤ bits.length,
      -2 ≤ rd.balance + balance (bits.take k) ∧ rd.balance + balance (bits.take k) ≤ 4)
    ⟨fun h => ⟨h.1, h.2⟩, fun h => ⟨h.total, h.within⟩⟩

theorem Leads.nil (rd : Disparity) : Leads rd [] rd := by
  cases rd <;> decide

theorem Leads.append {rd mid next : Disparity} {xs ys : List Bool} (hx : Leads rd xs mid)
    (hy : Leads mid ys next) : Leads rd (xs ++ ys) next := by
  have hmid := hx.total
  constructor
  · have hnext := hy.total
    rw [balance_append]
    omega
  · intro k hk
    rw [List.length_append] at hk
    -- A place among the bits behind starts from the disparity that those in front lead to.
    by_cases hfront : k ≤ xs.length
    · rw [List.take_append_of_le_length hfront]
      exact hx.within k hfront
    · have hback := hy.within (k - xs.length) (by omega)
      rw [List.take_append, List.take_of_length_le (by omega), balance_append]
      omega

theorem Leads.within_take {rd next : Disparity} {bits : List Bool} (h : Leads rd bits next)
    (k : Nat) :
    -2 ≤ rd.balance + balance (bits.take k) ∧ rd.balance + balance (bits.take k) ≤ 4 := by
  by_cases hk : k ≤ bits.length
  · exact h.within k hk
  · have hall := h.within bits.length le_rfl
    rw [List.take_length] at hall
    rw [List.take_of_length_le (by omega)]
    exact hall

/-! ### Symbols -/

/-- Each form of a block leads on from the disparity that asks for it. -/
def FormsLead {w : Nat} (forms : BitVec w × BitVec w) : Prop :=
  Leads .negative (blockBits forms.1) (Disparity.negative.after forms.1) ∧
    Leads .positive (blockBits forms.2) (Disparity.positive.after forms.2)

instance {w : Nat} (forms : BitVec w × BitVec w) : Decidable (FormsLead forms) :=
  inferInstanceAs (Decidable (_ ∧ _))

theorem FormsLead.select {w : Nat} {forms : BitVec w × BitVec w} (h : FormsLead forms)
    (rd : Disparity) : Leads rd (blockBits (rd.select forms)) (rd.after (rd.select forms)) := by
  cases rd with
  | negative => exact h.1
  | positive => exact h.2

theorem leads_sixAt (rd : Disparity) (low : Nat) (h : low < 32) :
    Leads rd (blockBits (sixAt rd low)) (rd.after (sixAt rd low)) := by
  have hall : ∀ low < 32, FormsLead (sixTable.getD low (0, 0)) := by decide
  exact (hall low h).select rd

theorem leads_fourAt (rd : Disparity) (low high : Nat) (h : high < 8) :
    Leads rd (blockBits (fourAt rd low high)) (rd.after (fourAt rd low high)) := by
  have halternate : FormsLead alternateFour := by decide
  have hall : ∀ high < 8, FormsLead (fourTable.getD high alternateFour) := by decide
  have hforms : FormsLead (fourForms rd low high) := by
    rcases fourForms_cases rd low high with hform | hform
    · rw [hform]
      exact halternate
    · rw [hform]
      exact hall high h
  exact hforms.select rd

theorem leads_encode (rd : Disparity) (input : LineInput) :
    Leads rd (Symbol.bits (encode rd input).1) (encode rd input).2 := by
  cases input with
  | data byte =>
    have hsix := leads_sixAt rd (byte.toNat % 32) (Nat.mod_lt _ (by decide))
    have hfour := leads_fourAt (rd.after (sixAt rd (byte.toNat % 32))) (byte.toNat % 32)
      (byte.toNat / 32) (high_lt byte)
    have hbits := bits_encodeByte rd byte
    rw [encode, hbits]
    exact hsix.append hfour
  | endOfFrame =>
    cases rd with
    | negative => decide
    | positive => decide

theorem leads_encodeAll (rd : Disparity) (inputs : List LineInput) :
    Leads rd ((encodeAll rd inputs).1.flatMap Symbol.bits) (encodeAll rd inputs).2 := by
  induction inputs generalizing rd with
  | nil => exact Leads.nil rd
  | cons input rest ih =>
    rw [encodeAll_cons, List.flatMap_cons]
    exact (leads_encode rd input).append (ih _)

/-! ### Raw values -/

/-- What the raw values of a run give, one by one, and the disparity behind them. -/
def encodeValues (rd : Disparity) : List Int → List (Except Error Symbol) × Disparity
  | [] => ([], rd)
  | value :: rest =>
    let (result, rd) := encodeValue rd value
    let (results, rd) := encodeValues rd rest
    (result :: results, rd)

/-- The symbols of the values that were not refused. -/
def sentSymbols (results : List (Except Error Symbol)) : List Symbol :=
  results.filterMap Except.toOption

/-- The values that stand for a line input. -/
def isValue (value : Int) : Bool := -1 ≤ value && value ≤ 255

/-- The inputs that raw values stand for. -/
def inputsOf (values : List Int) : List LineInput :=
  values.filterMap fun value => (LineInput.ofInt value).toOption

theorem encodeValues_cons (rd : Disparity) (value : Int) (rest : List Int) :
    encodeValues rd (value :: rest) =
      ((encodeValue rd value).1 :: (encodeValues (encodeValue rd value).2 rest).1,
        (encodeValues (encodeValue rd value).2 rest).2) := rfl

theorem ofInt_cases (value : Int) :
    (isValue value = true ∧ ∃ input, LineInput.ofInt value = .ok input) ∨
      (isValue value = false ∧ ∃ fault, LineInput.ofInt value = .error fault) := by
  unfold LineInput.ofInt isValue
  by_cases hflag : value = -1
  · subst hflag
    exact Or.inl ⟨rfl, _, rfl⟩
  · by_cases hbyte : 0 ≤ value ∧ value ≤ 255
    · refine Or.inl ⟨?_, _, by rw [if_neg hflag, if_pos hbyte]⟩
      rw [Bool.and_eq_true, decide_eq_true_eq, decide_eq_true_eq]
      omega
    · refine Or.inr ⟨?_, _, by rw [if_neg hflag, if_neg hbyte]⟩
      rw [Bool.and_eq_false_iff, decide_eq_false_iff_not, decide_eq_false_iff_not]
      omega

/-- A value is either sent as its input or refused, and then nothing moves. -/
theorem encodeValue_cases (rd : Disparity) (value : Int) :
    (isValue value = true ∧ ∃ input, LineInput.ofInt value = .ok input ∧
        encodeValue rd value = (.ok (encode rd input).1, (encode rd input).2)) ∨
      (isValue value = false ∧ ∃ fault, LineInput.ofInt value = .error fault ∧
        encodeValue rd value = (.error fault, rd)) := by
  rcases ofInt_cases value with ⟨hvalue, input, hok⟩ | ⟨hvalue, fault, herror⟩
  · refine Or.inl ⟨hvalue, input, hok, ?_⟩
    rw [encodeValue, hok]
  · refine Or.inr ⟨hvalue, fault, herror, ?_⟩
    rw [encodeValue, herror]

theorem isValue_eq_true_iff (value : Int) : isValue value = true ↔ -1 ≤ value ∧ value ≤ 255 := by
  rw [isValue, Bool.and_eq_true, decide_eq_true_eq, decide_eq_true_eq]

theorem encodeValue_refused_iff (rd : Disparity) (value : Int) :
    (∃ fault, (encodeValue rd value).1 = .error fault) ↔ ¬(-1 ≤ value ∧ value ≤ 255) := by
  rw [← isValue_eq_true_iff]
  rcases encodeValue_cases rd value with ⟨hvalue, input, -, hstep⟩ | ⟨hvalue, fault, -, hstep⟩
  · rw [hstep]
    constructor
    · rintro ⟨fault, herror⟩
      exact absurd herror (by simp)
    · intro hout
      exact absurd hvalue hout
  · rw [hstep, hvalue]
    exact ⟨fun _ => by simp, fun _ => ⟨fault, rfl⟩⟩

theorem encodeValue_of_refused (rd : Disparity) (value : Int)
    (h : ∃ fault, (encodeValue rd value).1 = .error fault) : (encodeValue rd value).2 = rd := by
  obtain ⟨fault, herror⟩ := h
  rcases encodeValue_cases rd value with ⟨-, input, -, hstep⟩ | ⟨-, cause, -, hstep⟩
  · rw [hstep] at herror
    exact absurd herror (by simp)
  · rw [hstep]

theorem inputsOf_cons_ok (value : Int) (rest : List Int) (input : LineInput)
    (h : LineInput.ofInt value = .ok input) :
    inputsOf (value :: rest) = input :: inputsOf rest := by
  rw [inputsOf, List.filterMap_cons, h]
  rfl

theorem inputsOf_cons_error (value : Int) (rest : List Int) (fault : Error)
    (h : LineInput.ofInt value = .error fault) : inputsOf (value :: rest) = inputsOf rest := by
  rw [inputsOf, List.filterMap_cons, h]
  rfl

theorem encodeValues_sends (rd : Disparity) (values : List Int) :
    sentSymbols (encodeValues rd values).1 = (encodeAll rd (inputsOf values)).1 ∧
      (encodeValues rd values).2 = (encodeAll rd (inputsOf values)).2 := by
  induction values generalizing rd with
  | nil => exact ⟨rfl, rfl⟩
  | cons value rest ih =>
    rw [encodeValues_cons]
    rcases encodeValue_cases rd value with ⟨-, input, hok, hstep⟩ | ⟨-, fault, herror, hstep⟩
    · obtain ⟨hsymbols, hnext⟩ := ih (encode rd input).2
      rw [hstep, inputsOf_cons_ok value rest input hok, encodeAll_cons, ← hsymbols, ← hnext]
      exact ⟨rfl, rfl⟩
    · rw [hstep, inputsOf_cons_error value rest fault herror]
      exact ih rd

theorem encodeValues_filter (rd : Disparity) (values : List Int) :
    encodeValues rd (values.filter isValue) =
      ((encodeAll rd (inputsOf values)).1.map .ok, (encodeAll rd (inputsOf values)).2) := by
  induction values generalizing rd with
  | nil => rfl
  | cons value rest ih =>
    rcases encodeValue_cases rd value with
      ⟨hvalue, input, hok, hstep⟩ | ⟨hvalue, fault, herror, hstep⟩
    · rw [List.filter_cons_of_pos hvalue, encodeValues_cons, inputsOf_cons_ok value rest input hok,
        encodeAll_cons, hstep, ih]
      rfl
    · rw [List.filter_cons_of_neg (by rw [hvalue]; decide), inputsOf_cons_error value rest fault
        herror, ih]

/-! ### A run step by step -/

theorem length_encodeValues (rd : Disparity) (values : List Int) :
    (encodeValues rd values).1.length = values.length := by
  induction values generalizing rd with
  | nil => rfl
  | cons value rest ih => rw [encodeValues_cons, List.length_cons, List.length_cons, ih]

theorem encodeValues_append (rd : Disparity) (xs ys : List Int) :
    encodeValues rd (xs ++ ys) =
      ((encodeValues rd xs).1 ++ (encodeValues (encodeValues rd xs).2 ys).1,
        (encodeValues (encodeValues rd xs).2 ys).2) := by
  induction xs generalizing rd with
  | nil => rfl
  | cons value rest ih =>
    rw [List.cons_append, encodeValues_cons, ih, encodeValues_cons]
    rfl

theorem encodeValues_take (rd : Disparity) (values : List Int) (k : Nat) :
    (encodeValues rd (values.take k)).1 = (encodeValues rd values).1.take k := by
  have happend := encodeValues_append rd (values.take k) (values.drop k)
  rw [List.take_append_drop] at happend
  rw [happend]
  -- Each value gives one result, so both are cut at the same place.
  by_cases hk : k ≤ values.length
  · rw [List.take_left' (by rw [length_encodeValues, List.length_take_of_le hk])]
  · have hall : values.take k = values := List.take_of_length_le (by omega)
    have hnone : values.drop k = [] := List.drop_of_length_le (by omega)
    rw [hall, hnone, encodeValues, List.append_nil,
      List.take_of_length_le (by rw [length_encodeValues]; omega)]

/-- The `i`-th value meets the disparity that those in front of it left. -/
theorem encodeValues_step (rd : Disparity) (values : List Int) (i : Nat) (value : Int)
    (h : values[i]? = some value) :
    let here := (encodeValues rd (values.take i)).2
    (encodeValues rd values).1[i]? = some (encodeValue here value).1 ∧
      (encodeValues rd (values.take (i + 1))).2 = (encodeValue here value).2 := by
  intro here
  have hlt : i < values.length := (List.getElem?_eq_some_iff.mp h).1
  have hnext : encodeValues rd (values.take (i + 1)) =
      ((encodeValues rd (values.take i)).1 ++ [(encodeValue here value).1],
        (encodeValue here value).2) := by
    rw [List.take_add_one, h, Option.toList_some, encodeValues_append]
    rfl
  have hlen : (encodeValues rd (values.take i)).1.length = i := by
    rw [length_encodeValues, List.length_take_of_le hlt.le]
  constructor
  · have hget : ((encodeValues rd values).1.take (i + 1))[i]? = (encodeValues rd values).1[i]? :=
      List.getElem?_take_of_lt (Nat.lt_succ_self i)
    rw [← hget, ← encodeValues_take, hnext, List.getElem?_append_right hlen.le, hlen, Nat.sub_self]
    rfl
  · rw [hnext]

/-- Raw values in any order, from the start of a session. A value is refused exactly if it is
neither a byte nor the flag, and the disparity stays. The others give the symbols that they give on
their own. Behind each value the balance of all that went out is the one that the disparity stands
for, and behind each bit it is between -2 and 4. -/
theorem line_stays_balanced (values : List Int) :
    (encodeValues .negative values).1.length = values.length ∧
    let results := (encodeValues .negative values).1
    let disparityAt (k : Nat) := (encodeValues .negative (values.take k)).2
    (∀ (i : Nat) (value : Int) (result : Except Error Symbol),
      values[i]? = some value → results[i]? = some result →
      ((∃ fault, result = .error fault) ↔ ¬(-1 ≤ value ∧ value ≤ 255)) ∧
      ((∃ fault, result = .error fault) → disparityAt (i + 1) = disparityAt i)) ∧
    encodeValues .negative (values.filter isValue) =
      ((sentSymbols results).map .ok, disparityAt values.length) ∧
    (∀ k, balance ((sentSymbols (results.take k)).flatMap Symbol.bits) =
      match disparityAt k with
      | .negative => 0
      | .positive => 2) ∧
    ∀ k, -2 ≤ balance (((sentSymbols results).flatMap Symbol.bits).take k) ∧
      balance (((sentSymbols results).flatMap Symbol.bits).take k) ≤ 4 := by
  obtain ⟨hsymbols, hdisparity⟩ := encodeValues_sends .negative values
  refine ⟨length_encodeValues _ _, ?_⟩
  intro results disparityAt
  refine ⟨?_, ?_, ?_, ?_⟩
  · intro i value result hvalue hresult
    obtain ⟨hhere, hnext⟩ := encodeValues_step .negative values i value hvalue
    obtain rfl : _ = result := Option.some.inj (hhere.symm.trans hresult)
    refine ⟨encodeValue_refused_iff _ value, fun hrefused => ?_⟩
    exact hnext.trans (encodeValue_of_refused _ value hrefused)
  · have hall : values.take values.length = values := List.take_length
    simp only [results, disparityAt]
    rw [encodeValues_filter, hsymbols, hall, hdisparity]
  · intro k
    have htotal := (leads_encodeAll .negative (inputsOf (values.take k))).total
    obtain ⟨hfront, hlast⟩ := encodeValues_sends .negative (values.take k)
    rw [encodeValues_take] at hfront
    rw [← hfront, ← hlast, Disparity.balance, Int.zero_add] at htotal
    exact htotal
  · intro k
    have hwithin := (leads_encodeAll .negative (inputsOf values)).within_take k
    rw [← hsymbols, Disparity.balance, Int.zero_add] at hwithin
    exact hwithin

theorem line_stays_balanced_refused_between :
    let values : List Int := [0xF1, 300, -1, -2, 0x07]
    let results := (encodeValues .negative values).1
    values[3]? = some (-2) ∧ results[3]? = some (.error (.argument (.lineInput (-2)))) ∧
      (encodeValues .negative (values.take 4)).2 = (encodeValues .negative (values.take 3)).2 ∧
      encodeValues .negative [0xF1, -1, 0x07] =
        ([.ok 0b1000110111, .ok 0b1100000101, .ok 0b1110001011], .positive) ∧
      balance ((sentSymbols (results.take 5)).flatMap Symbol.bits) = 2 ∧
      -2 ≤ balance (((sentSymbols results).flatMap Symbol.bits).take 17) := by
  intro values results
  have hresult : results[3]? = some (.error (.argument (.lineInput (-2)))) := rfl
  obtain ⟨-, hrefused, hfiltered, hbalance, hwithin⟩ := line_stays_balanced values
  obtain ⟨-, hstays⟩ := hrefused 3 (-2) _ rfl hresult
  exact ⟨rfl, hresult, hstays ⟨_, rfl⟩, hfiltered, hbalance 5, (hwithin 17).1⟩

end LineCode

end Downlink
