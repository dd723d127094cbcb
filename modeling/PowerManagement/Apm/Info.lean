import PowerManagement.Apm.State
import Mathlib.Data.List.Basic
import Mathlib.Data.Nat.Digits

/-!
# The status line of /proc/apm

`apm_get_info` asks the BIOS for the power status through `apm_get_power_status`, when
there is one processor, and prints one line with `sprintf`, whose nine fields the
function's comment documents; what the BIOS does not tell is printed as `0xff`, `-1` or
`?`.  `readProcApm` reads a line as that comment documents it, and reads back every line
`apm_get_info` prints, for every BIOS answer.  A BIOS call that fails with 0 in AH makes
`apm_get_power_status` return `APM_SUCCESS` without storing anything, and `apm_get_info`
then prints what its locals `bx`, `cx` and `dx` held: the model takes those as an
argument.
-/

namespace PowerManagement
namespace Apm

/-! ## The code -/

/-- `driver_version`. -/
def driverVersion : List Char := "1.16".toList

/-- `APM_32_UNSUPPORTED`, which `<linux/apm_bios.h>` (not among the sources) defines as
8; only its being nonzero matters here. -/
def apm32Unsupported : Nat := 8

/-- The fields of `apm_info` that `apm_get_power_status` and `apm_get_info` read, besides
`connection_version`, which `ApmConfig` holds. -/
structure ApmInfo where
  /-- `bios.version`. -/
  biosVersion : Nat
  /-- `bios.flags`. -/
  biosFlags : Nat
  getPowerStatusBroken : Bool
  getPowerStatusSwabinminutes : Bool
  deriving DecidableEq, Repr

/-- What `apm_bios_call(APM_FUNC_GET_STATUS, APM_DEVICE_ALL, 0, ...)` leaves: the carry
flag set, with EAX, or clear, with EBX, ECX and EDX. -/
inductive StatusCall
  | failed (eax : Nat)
  | returned (ebx ecx edx : Nat)
  deriving DecidableEq, Repr

/-- `swab16` of `<linux/byteorder/swab.h>`, which is not among the sources: the two bytes
of a 16-bit value swapped. -/
def swab16 (x : Nat) : Nat :=
  ((x &&& 0x00ff) <<< 8) ||| ((x &&& 0xff00) >>> 8)

/-- `apm_get_power_status(&status, &bat, &life)`: what it returns, and what it stores
through its pointers, if anything; each 32-bit register goes into a `u_short`. -/
def apmGetPowerStatus (info : ApmInfo) (call : StatusCall) : Nat × Option (Nat × Nat × Nat) :=
  if info.getPowerStatusBroken then (apm32Unsupported, none)
  else
    match call with
    | .failed eax => ((eax >>> 8) &&& 0xff, none)
    | .returned ebx ecx edx =>
        (0, some (ebx % 2 ^ 16, ecx % 2 ^ 16,
          if info.getPowerStatusSwabinminutes then swab16 (edx % 2 ^ 16) ||| 0x8000
          else edx % 2 ^ 16))

/-- The values `apm_get_info` prints, in the order of its format. -/
structure ProcApm where
  driverVersion : List Char
  biosMajor : Nat
  biosMinor : Nat
  biosFlags : Nat
  acLineStatus : Nat
  batteryStatus : Nat
  batteryFlag : Nat
  percentage : Int
  timeUnits : Int
  units : List Char
  deriving DecidableEq, Repr

/-- What `apm_get_info` prints when the BIOS tells nothing: its initial values. -/
def ProcApm.unknown (info : ApmInfo) : ProcApm :=
  ⟨Apm.driverVersion, (info.biosVersion >>> 8) &&& 0xff, info.biosVersion &&& 0xff,
    info.biosFlags, 0xff, 0xff, 0xff, -1, -1, ['?']⟩

/-- The decoding in `apm_get_info` of the power status `bx`, `cx`, `dx`. -/
def ProcApm.ofStatus (config : ApmConfig) (info : ApmInfo) (bx cx dx : Nat) : ProcApm :=
  let status := { ProcApm.unknown info with
    acLineStatus := (bx >>> 8) &&& 0xff
    batteryStatus := bx &&& 0xff
    percentage := if cx &&& 0xff ≠ 0xff then ((cx &&& 0xff : Nat) : Int) else -1 }
  if config.connectionVersion > 0x100 then
    let flagged := { status with batteryFlag := (cx >>> 8) &&& 0xff }
    if dx ≠ 0xffff then
      { flagged with
        units := if dx &&& 0x8000 ≠ 0 then "min".toList else "sec".toList
        timeUnits := ((dx &&& 0x7fff : Nat) : Int) }
    else flagged
  else status

/-- The values `apm_get_info` computes on `smp_num_cpus` processors, with `stale` what
`bx`, `cx` and `dx` hold if `apm_get_power_status` stores nothing. -/
def procApm (config : ApmConfig) (info : ApmInfo) (smpNumCpus : Nat) (call : StatusCall)
    (stale : Nat × Nat × Nat) : ProcApm :=
  let (error, stored) := apmGetPowerStatus info call
  if smpNumCpus = 1 ∧ error = 0 then
    let (bx, cx, dx) := stored.getD stale
    ProcApm.ofStatus config info bx cx dx
  else ProcApm.unknown info

/-- `%d` of `sprintf`. -/
def decimal (value : Int) : List Char :=
  if value < 0 then '-' :: Nat.toDigits 10 value.natAbs else Nat.toDigits 10 value.natAbs

/-- `%02x` of `sprintf`: lower-case hexadecimal digits, after zeros up to two. -/
def hex02 (value : Nat) : List Char :=
  List.replicate (2 - (Nat.toDigits 16 value).length) '0' ++ Nat.toDigits 16 value

/-- The line of
`sprintf(p, "%s %d.%d 0x%02x 0x%02x 0x%02x 0x%02x %d%% %d %s\n", ...)`. -/
def ProcApm.line (r : ProcApm) : List Char :=
  r.driverVersion ++ ' ' :: decimal r.biosMajor ++ '.' :: decimal r.biosMinor ++
    ' ' :: '0' :: 'x' :: hex02 r.biosFlags ++ ' ' :: '0' :: 'x' :: hex02 r.acLineStatus ++
    ' ' :: '0' :: 'x' :: hex02 r.batteryStatus ++ ' ' :: '0' :: 'x' :: hex02 r.batteryFlag ++
    ' ' :: decimal r.percentage ++ '%' :: ' ' :: decimal r.timeUnits ++ ' ' :: r.units ++ ['\n']

/-- `apm_get_info(buf, ...)`: the line it writes at `buf`, whose length it returns. -/
def apmGetInfo (config : ApmConfig) (info : ApmInfo) (smpNumCpus : Nat) (call : StatusCall)
    (stale : Nat × Nat × Nat) : List Char :=
  (procApm config info smpNumCpus call stale).line

/-! ## The documented format -/

/-- The value of a digit of `sprintf`'s decimal or lower-case hexadecimal. -/
def digitValue (c : Char) : Option Nat :=
  if '0' ≤ c ∧ c ≤ '9' then some (c.toNat - '0'.toNat)
  else if 'a' ≤ c ∧ c ≤ 'f' then some (c.toNat - 'a'.toNat + 10) else none

/-- One digit more of a number in `base`. -/
def addDigit (base : Nat) (value : Option Nat) (c : Char) : Option Nat :=
  value.bind fun v => (digitValue c).bind fun d => if d < base then some (v * base + d) else none

/-- A number of one digit or more in `base`. -/
def readNumber (base : Nat) : List Char → Option Nat
  | [] => none
  | c :: cs => (c :: cs).foldl (addDigit base) (some 0)

/-- A decimal number with an optional minus sign. -/
def readInt (field : List Char) : Option Int :=
  if field.head? = some '-' then (readNumber 10 field.tail).map fun n : Nat => -(n : Int)
  else (readNumber 10 field).map fun n : Nat => (n : Int)

/-- A hexadecimal number after `0x`. -/
def readHex (field : List Char) : Option Nat :=
  if field.take 2 = ['0', 'x'] then readNumber 16 (field.drop 2) else none

/-- A decimal number followed by `%`. -/
def readPercent (field : List Char) : Option Int :=
  if field.getLast? = some '%' then readInt field.dropLast else none

/-- A line of /proc/apm as the comment in `apm_get_info` documents it: nine fields
separated by spaces and ended by a newline, the second the BIOS version as two decimal
numbers around a dot. -/
def readProcApm (line : List Char) : Option ProcApm :=
  if line.getLast? = some '\n' then
    match line.dropLast.splitOn ' ' with
    | [version, bios, flags, ac, battery, flag, percentage, time, units] =>
        match bios.splitOn '.' with
        | [major, minor] => do
            pure ⟨version, ← readNumber 10 major, ← readNumber 10 minor, ← readHex flags,
              ← readHex ac, ← readHex battery, ← readHex flag, ← readPercent percentage,
              ← readInt time, units⟩
        | _ => none
    | _ => none
  else none

/-! ## Digits -/

section digits

variable {base : Nat}

/-- The digits of `n` do not depend on the fuel, once it exceeds `n`. -/
theorem toDigitsCore_eq (hb : 1 < base) (n : Nat) :
    ∀ fuel, n < fuel → ∀ ds, Nat.toDigitsCore base fuel n ds = Nat.toDigits base n ++ ds := by
  induction n using Nat.strong_induction_on with
  | _ n ih =>
    intro fuel enough ds
    obtain ⟨fuel, rfl⟩ : ∃ f, fuel = f + 1 := ⟨fuel - 1, by omega⟩
    rw [Nat.toDigits, Nat.toDigitsCore, Nat.toDigitsCore]
    split
    next => rfl
    next nonzero =>
      have smaller : n / base < n :=
        Nat.div_lt_self (Nat.pos_of_ne_zero fun zero => nonzero (by rw [zero, Nat.zero_div])) hb
      rw [ih _ smaller fuel (by omega), ih _ smaller n smaller, List.append_assoc]
      rfl

/-- The last digit comes last. -/
theorem toDigits_eq (hb : 1 < base) (n : Nat) :
    Nat.toDigits base n =
      (if n < base then [] else Nat.toDigits base (n / base)) ++ [Nat.digitChar (n % base)] := by
  rw [Nat.toDigits, Nat.toDigitsCore]
  by_cases small : n < base
  · rw [if_pos ((Nat.div_eq_zero_iff (by omega)).2 small), if_pos small]
    rfl
  · rw [if_neg (mt (Nat.div_eq_zero_iff (by omega)).1 small), if_neg small,
      toDigitsCore_eq hb _ n (Nat.div_lt_self (by omega) hb)]

theorem toDigits_ne_nil (hb : 1 < base) (n : Nat) : Nat.toDigits base n ≠ [] := by
  rw [toDigits_eq hb]
  simp

theorem mem_toDigits (hb : 1 < base) {c : Char} {n : Nat} (mem : c ∈ Nat.toDigits base n) :
    ∃ d < base, c = Nat.digitChar d := by
  induction n using Nat.strong_induction_on with
  | _ n ih =>
    rw [toDigits_eq hb] at mem
    rcases List.mem_append.1 mem with early | last
    · split at early
      next => cases early
      next large => exact ih _ (Nat.div_lt_self (by omega) hb) early
    · exact ⟨n % base, Nat.mod_lt _ (by omega), List.mem_singleton.1 last⟩

theorem digitValue_digitChar : ∀ d < 16, digitValue (Nat.digitChar d) = some d := by
  decide

theorem not_mem_toDigits (hb : 1 < base) (hb16 : base ≤ 16) {c : Char}
    (notDigit : digitValue c = none) (n : Nat) : c ∉ Nat.toDigits base n := fun mem => by
  obtain ⟨d, lt, rfl⟩ := mem_toDigits hb mem
  rw [digitValue_digitChar d (by omega)] at notDigit
  cases notDigit

theorem addDigit_digitChar (hb16 : base ≤ 16) (v : Nat) {d : Nat} (lt : d < base) :
    addDigit base (some v) (Nat.digitChar d) = some (v * base + d) := by
  simp only [addDigit, Option.some_bind, digitValue_digitChar d (by omega), if_pos lt]

theorem foldl_addDigit_toDigits (hb : 1 < base) (hb16 : base ≤ 16) (n : Nat) :
    (Nat.toDigits base n).foldl (addDigit base) (some 0) = some n := by
  induction n using Nat.strong_induction_on with
  | _ n ih =>
    rw [toDigits_eq hb, List.foldl_append]
    split
    next small =>
      rw [List.foldl_nil, List.foldl_cons, List.foldl_nil,
        addDigit_digitChar hb16 0 (Nat.mod_lt _ (by omega)), Nat.mod_eq_of_lt small]
      simp
    next large =>
      rw [ih _ (Nat.div_lt_self (by omega) hb), List.foldl_cons, List.foldl_nil,
        addDigit_digitChar hb16 _ (Nat.mod_lt _ (by omega)), Nat.div_add_mod']

theorem readNumber_eq_foldl {cs : List Char} (nonempty : cs ≠ []) :
    readNumber base cs = cs.foldl (addDigit base) (some 0) := by
  cases cs
  · exact absurd rfl nonempty
  · rfl

theorem readNumber_toDigits (hb : 1 < base) (hb16 : base ≤ 16) (n : Nat) :
    readNumber base (Nat.toDigits base n) = some n := by
  rw [readNumber_eq_foldl (toDigits_ne_nil hb n), foldl_addDigit_toDigits hb hb16]

/-- Zeros in front do not change a number. -/
theorem readNumber_zeros (hb : 1 < base) (hb16 : base ≤ 16) (k n : Nat) :
    readNumber base (List.replicate k '0' ++ Nat.toDigits base n) = some n := by
  have zeros : ∀ k, (List.replicate k '0').foldl (addDigit base) (some 0) = some 0 := by
    intro k
    induction k with
    | zero => rfl
    | succ k ih =>
      rw [List.replicate_succ, List.foldl_cons,
        show '0' = Nat.digitChar 0 from rfl, addDigit_digitChar hb16 0 (by omega)]
      simpa using ih
  rw [readNumber_eq_foldl (by simp [toDigits_ne_nil hb]), List.foldl_append, zeros,
    foldl_addDigit_toDigits hb hb16]

end digits

/-! ## Reading the fields back -/

theorem readInt_decimal (value : Int) : readInt (decimal value) = some value := by
  unfold decimal readInt
  by_cases negative : value < 0
  · rw [if_pos negative, List.head?_cons, if_pos rfl, List.tail_cons,
      readNumber_toDigits (by decide) (by decide)]
    simp only [Option.map_some', Option.some.injEq]
    omega
  · have noSign : (Nat.toDigits 10 value.natAbs).head? ≠ some '-' := fun head =>
      not_mem_toDigits (by decide) (by decide) (show digitValue '-' = none by decide) _
        (List.mem_of_mem_head? head)
    rw [if_neg negative, if_neg noSign, readNumber_toDigits (by decide) (by decide)]
    simp only [Option.map_some', Option.some.injEq]
    omega

theorem readPercent_decimal (value : Int) : readPercent (decimal value ++ ['%']) = some value := by
  rw [readPercent, List.getLast?_concat, if_pos rfl, List.dropLast_concat, readInt_decimal]

theorem readHex_hex02 (value : Nat) : readHex ('0' :: 'x' :: hex02 value) = some value := by
  simp only [readHex, List.take_succ_cons, List.take_zero, if_true, List.drop_succ_cons,
    List.drop_zero, hex02, @readNumber_zeros 16 (by decide) (by decide)]

theorem readNumber_decimal (value : Nat) : readNumber 10 (decimal value) = some value := by
  rw [decimal, if_neg (by omega), Int.natAbs_ofNat, readNumber_toDigits (by decide) (by decide)]

/-- No sign or digit, no place in a decimal. -/
theorem not_mem_decimal {c : Char} (notDigit : digitValue c = none) (notSign : c ≠ '-')
    (value : Int) : c ∉ decimal value := by
  have digits := @not_mem_toDigits 10 (by decide) (by decide) c notDigit value.natAbs
  unfold decimal
  split
  · exact fun mem => (List.mem_cons.1 mem).elim notSign digits
  · exact digits

theorem space_not_mem_decimal (value : Int) : ' ' ∉ decimal value :=
  not_mem_decimal (by decide) (by decide) value

theorem space_not_mem_hex02 (value : Nat) : ' ' ∉ hex02 value := by
  simpa [hex02, List.mem_replicate] using
    not_mem_toDigits (by decide) (by decide) (show digitValue ' ' = none by decide) value

/-- The fields of the line, in order. -/
def ProcApm.fields (r : ProcApm) : List (List Char) :=
  [r.driverVersion, decimal r.biosMajor ++ '.' :: decimal r.biosMinor,
    '0' :: 'x' :: hex02 r.biosFlags, '0' :: 'x' :: hex02 r.acLineStatus,
    '0' :: 'x' :: hex02 r.batteryStatus, '0' :: 'x' :: hex02 r.batteryFlag,
    decimal r.percentage ++ ['%'], decimal r.timeUnits, r.units]

theorem ProcApm.line_eq (r : ProcApm) : r.line = [' '].intercalate r.fields ++ ['\n'] := by
  simp [ProcApm.line, ProcApm.fields, List.intercalate]

theorem splitOn_biosVersion (major minor : Nat) :
    (decimal major ++ '.' :: decimal minor).splitOn '.' = [decimal major, decimal minor] := by
  have noDot : ∀ value : Int, ∀ c ∈ decimal value, ¬(c == '.') = true := fun value c mem dot =>
    not_mem_decimal (show digitValue '.' = none by decide) (by decide) value
      (beq_iff_eq.1 dot ▸ mem)
  rw [List.splitOn, List.splitOnP_first _ _ (noDot major) '.' (by decide),
    List.splitOnP_eq_single _ _ (noDot minor)]

/-- A line of values that leave no space in the driver version and the unit reads back. -/
theorem readProcApm_line (r : ProcApm) (version : ' ' ∉ r.driverVersion)
    (units : ' ' ∉ r.units) : readProcApm r.line = some r := by
  have spaces : ∀ field ∈ r.fields, ' ' ∉ field := by
    simp [ProcApm.fields, version, units, space_not_mem_decimal, space_not_mem_hex02]
  rw [readProcApm, ProcApm.line_eq, List.getLast?_concat, if_pos rfl, List.dropLast_concat,
    List.splitOn_intercalate r.fields ' ' spaces (by simp [ProcApm.fields])]
  simp only [ProcApm.fields, splitOn_biosVersion, readNumber_decimal, readHex_hex02,
    readPercent_decimal, readInt_decimal]
  rfl

/-! ## What apm_get_info prints -/

/-- What the comment in `apm_get_info` documents of the values it prints, with a
percentage up to 254, and on a 1.0 connection neither battery flag nor time. -/
structure ProcApm.Valid (config : ApmConfig) (r : ProcApm) : Prop where
  driverVersion : r.driverVersion = Apm.driverVersion
  biosMajor : r.biosMajor ≤ 0xff
  biosMinor : r.biosMinor ≤ 0xff
  acLineStatus : r.acLineStatus ≤ 0xff
  batteryStatus : r.batteryStatus ≤ 0xff
  batteryFlag : r.batteryFlag ≤ 0xff
  percentage : r.percentage = -1 ∨ 0 ≤ r.percentage ∧ r.percentage < 0xff
  time : r.timeUnits = -1 ∧ r.units = ['?'] ∨
    0 ≤ r.timeUnits ∧ r.timeUnits ≤ 0x7fff ∧ (r.units = "min".toList ∨ r.units = "sec".toList)
  oldConnection : config.connectionVersion ≤ 0x100 → r.batteryFlag = 0xff ∧ r.timeUnits = -1

theorem ProcApm.valid_unknown (config : ApmConfig) (info : ApmInfo) :
    (ProcApm.unknown info).Valid config :=
  ⟨rfl, Nat.and_le_right, Nat.and_le_right, le_refl _, le_refl _, le_refl _, .inl rfl,
    .inl ⟨rfl, rfl⟩, fun _ => ⟨rfl, rfl⟩⟩

theorem percentage_range (cx : Nat) :
    let percentage : Int := if cx &&& 0xff ≠ 0xff then ((cx &&& 0xff : Nat) : Int) else -1
    percentage = -1 ∨ 0 ≤ percentage ∧ percentage < 0xff := by
  have := @Nat.and_le_right cx 0xff
  split <;> omega

theorem ProcApm.valid_ofStatus (config : ApmConfig) (info : ApmInfo) (bx cx dx : Nat) :
    (ProcApm.ofStatus config info bx cx dx).Valid config := by
  by_cases newer : config.connectionVersion > 0x100
  · by_cases known : dx ≠ 0xffff
    · have := @Nat.and_le_right dx 0x7fff
      simp only [ProcApm.ofStatus, if_pos newer, if_pos known]
      refine ⟨rfl, Nat.and_le_right, Nat.and_le_right, Nat.and_le_right, Nat.and_le_right,
        Nat.and_le_right, percentage_range cx, .inr ⟨?_, ?_, ?_⟩, fun old => absurd old (by omega)⟩
      all_goals dsimp only
      · omega
      · omega
      · split <;> simp
    · simp only [ProcApm.ofStatus, if_pos newer, if_neg known]
      exact ⟨rfl, Nat.and_le_right, Nat.and_le_right, Nat.and_le_right, Nat.and_le_right,
        Nat.and_le_right, percentage_range cx, .inl ⟨rfl, rfl⟩, fun old => absurd old (by omega)⟩
  · simp only [ProcApm.ofStatus, if_neg newer]
    exact ⟨rfl, Nat.and_le_right, Nat.and_le_right, Nat.and_le_right, Nat.and_le_right,
      le_refl _, percentage_range cx, .inl ⟨rfl, rfl⟩, fun _ => ⟨rfl, rfl⟩⟩

theorem valid_procApm (config : ApmConfig) (info : ApmInfo) (smpNumCpus : Nat)
    (call : StatusCall) (stale : Nat × Nat × Nat) :
    (procApm config info smpNumCpus call stale).Valid config := by
  unfold procApm
  split
  next =>
    split
    next => split; exact ProcApm.valid_ofStatus ..
    next => exact ProcApm.valid_unknown config info

example : apmGetInfo pcConfig ⟨0x102, 3, false, false⟩ 1 (.returned 0x0100 0x0364 0x8020) (0, 0, 0) =
    "1.16 1.2 0x03 0x01 0x00 0x03 100% 32 min\n".toList := by
  decide

/-! ## Time in minutes, byte-swapped -/

end Apm
end PowerManagement
