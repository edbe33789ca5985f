import PowerMgr.Lib.Buffer
import Mathlib.Data.Int.Basic

/-!
# Parcels of process lists

A list of processes is sent to the service as its size followed by the two numbers of each process.
Writer and reader both bound the size, at different points and by different tests: the writer
checks it after having written it and accepts the empty list, the reader refuses every size below
one.

* `marshalling`, `unmarshalling` — `VectorPair::Marshalling` and `VectorPair::Unmarshalling`;
* `RoundTrips` — what a list should satisfy: accepted, it is read back; refused, it leaves no trace;
* `roundTrips_iff` — this holds of the lists of 1 to 2000 processes and of no others.
-/

namespace PowerMgr.RunningLock.VectorPair

open Lib (FixedCodec Buffer int32LE)

universe u

/-- A process: its pid and its uid. -/
abbrev ProcessInfo := Int32 × Int32

abbrev Parcel := Buffer

/-- `MAX_PROXY_RUNNINGLOCK_NUM` -/
def maxProxyRunningLockNum : Nat := 2000

section Model

variable {σ : Type u} (int32 : FixedCodec Int32 σ)

def writeProcessInfo (parcel : Parcel σ) (info : ProcessInfo) : Parcel σ :=
  (parcel.write int32.toCodec info.1).write int32.toCodec info.2

/-- `VectorPair::Marshalling`: the result and the parcel afterwards. -/
def marshalling (processInfos : List ProcessInfo) (parcel : Parcel σ) : Bool × Parcel σ :=
  let size := processInfos.length
  -- The size is narrowed to 32 bits and written before it is checked.
  let parcel := parcel.write int32.toCodec (Int32.ofNat size)
  if maxProxyRunningLockNum < size then (false, parcel)
  else (true, processInfos.foldl (writeProcessInfo int32) parcel)

/-- The loop of `VectorPair::Unmarshalling`, for the entries that are left. -/
def readProcessInfos : Nat → Parcel σ → Option (List ProcessInfo) × Parcel σ
  | 0, parcel => (some [], parcel)
  | n + 1, parcel =>
    match parcel.read int32.toCodec with
    | (none, parcel) => (none, parcel)
    | (some first, parcel) =>
      match parcel.read int32.toCodec with
      | (none, parcel) => (none, parcel)
      | (some second, parcel) =>
        match readProcessInfos n parcel with
        | (none, parcel) => (none, parcel)
        | (some processInfos, parcel) => (some ((first, second) :: processInfos), parcel)

/-- `VectorPair::Unmarshalling`: the list, if any, and the parcel afterwards. -/
def unmarshalling (parcel : Parcel σ) : Option (List ProcessInfo) × Parcel σ :=
  match parcel.read int32.toCodec with
  | (none, parcel) => (none, parcel)
  | (some size, parcel) =>
    if size ≤ 0 then (none, parcel)
    else if Int32.ofNat maxProxyRunningLockNum < size then (none, parcel)
    else readProcessInfos int32 size.toNatClampNeg parcel

/-! ## What is written -/

/-- The entries of a list as they stand in a parcel. -/
def infosUnits (processInfos : List ProcessInfo) : List σ :=
  processInfos.flatMap fun info => int32.write info.1 ++ int32.write info.2

/-- A list as it stands in a parcel. -/
def units (processInfos : List ProcessInfo) : List σ :=
  int32.write (Int32.ofNat processInfos.length) ++ infosUnits int32 processInfos

theorem foldl_writeProcessInfo (processInfos : List ProcessInfo) (parcel : Parcel σ) :
    processInfos.foldl (writeProcessInfo int32) parcel = parcel.append (infosUnits int32 processInfos) := by
  induction processInfos generalizing parcel with
  | nil => simp [infosUnits]
  | cons info processInfos ih =>
    rw [List.foldl_cons, ih]
    simp [writeProcessInfo, Buffer.write, infosUnits]

/-- A list within the bound is written; of a longer list only the size is. -/
theorem marshalling_eq (processInfos : List ProcessInfo) (parcel : Parcel σ) :
    marshalling int32 processInfos parcel =
      if processInfos.length ≤ maxProxyRunningLockNum then (true, parcel.append (units int32 processInfos))
      else (false, parcel.append (int32.write (Int32.ofNat processInfos.length))) := by
  by_cases hbound : processInfos.length ≤ maxProxyRunningLockNum
  · simp [marshalling, foldl_writeProcessInfo, Buffer.write, units, hbound, Nat.not_lt.mpr hbound]
  · simp [marshalling, Buffer.write, hbound, Nat.lt_of_not_le hbound]

/-! ## What is read -/

/-- One round of the loop: it finds an entry at the cursor, and goes on behind it. -/
theorem readProcessInfos_succ {n : Nat} {parcel parcel' : Parcel σ} {processInfos : List ProcessInfo} :
    readProcessInfos int32 (n + 1) parcel = (some processInfos, parcel') ↔
      ∃ info infos rest, processInfos = info :: infos ∧
        parcel.unread = int32.write info.1 ++ (int32.write info.2 ++ rest) ∧
        readProcessInfos int32 n (parcel.advance ((int32.write info.1).length + (int32.write info.2).length)) =
          (some infos, parcel') := by
  constructor
  · intro hread
    simp only [readProcessInfos] at hread
    split at hread
    next => simp at hread
    next first parcel₁ hfirst =>
      split at hread
      next => simp at hread
      next second parcel₂ hsecond =>
        split at hread
        next => simp at hread
        next infos parcel₃ hinfos =>
          simp only [Prod.mk.injEq, Option.some.injEq] at hread
          obtain ⟨rfl, rfl⟩ := hread
          obtain ⟨rest₁, hunread₁, rfl⟩ := Buffer.read_eq_some.mp hfirst
          obtain ⟨rest₂, hunread₂, rfl⟩ := Buffer.read_eq_some.mp hsecond
          have hrest₁ : rest₁ = int32.write second ++ rest₂ := by
            simpa [hunread₁] using hunread₂
          rw [hrest₁] at hunread₁
          rw [Buffer.advance_advance] at hinfos
          exact ⟨(first, second), infos, rest₂, rfl, hunread₁, hinfos⟩
  · rintro ⟨info, infos, rest, rfl, hunread, hinfos⟩
    have hsecond : (parcel.advance (int32.write info.1).length).unread = int32.write info.2 ++ rest := by
      simp [hunread]
    rw [← Buffer.advance_advance] at hinfos
    simp only [readProcessInfos, Buffer.read_write hunread, Buffer.read_write hsecond, hinfos]

/-- The loop succeeds when it finds as many entries as the size says, and reads exactly these. -/
theorem readProcessInfos_eq_some {n : Nat} {parcel parcel' : Parcel σ} {processInfos : List ProcessInfo} :
    readProcessInfos int32 n parcel = (some processInfos, parcel') ↔
      processInfos.length = n ∧ ∃ rest, parcel.unread = infosUnits int32 processInfos ++ rest ∧
        parcel' = parcel.advance (infosUnits int32 processInfos).length := by
  induction n generalizing parcel parcel' processInfos with
  | zero =>
    constructor
    · intro hread
      simp only [readProcessInfos, Prod.mk.injEq, Option.some.injEq] at hread
      obtain ⟨rfl, rfl⟩ := hread
      exact ⟨rfl, parcel.unread, by simp [infosUnits]⟩
    · rintro ⟨hlength, rest, hunread, rfl⟩
      rw [List.length_eq_zero_iff] at hlength
      subst hlength
      simp [readProcessInfos, infosUnits]
  | succ n ih =>
    rw [readProcessInfos_succ]
    constructor
    · rintro ⟨info, infos, rest₁, rfl, hunread, hread⟩
      obtain ⟨hlength, rest, hinfos, rfl⟩ := ih.mp hread
      have hrest₁ : rest₁ = infosUnits int32 infos ++ rest := by
        simpa [hunread] using hinfos
      refine ⟨by simp [hlength], rest, ?_, ?_⟩
      · rw [hunread, hrest₁]
        simp [infosUnits]
      · simp [infosUnits, Nat.add_assoc]
    · rintro ⟨hlength, rest, hunread, rfl⟩
      cases processInfos with
      | nil => simp at hlength
      | cons info infos =>
        have hinfo : parcel.unread = int32.write info.1 ++ (int32.write info.2 ++ (infosUnits int32 infos ++ rest)) := by
          simpa [infosUnits] using hunread
        refine ⟨info, infos, infosUnits int32 infos ++ rest, rfl, hinfo, ?_⟩
        apply ih.mpr
        refine ⟨by simpa using hlength, rest, ?_, ?_⟩
        · simp [hinfo]
        · simp [infosUnits, Nat.add_assoc]

theorem toInt_maxProxyRunningLockNum : (Int32.ofNat maxProxyRunningLockNum).toInt = 2000 := by
  decide

/-- The sizes that the reader accepts, and the number of entries it reads for them. -/
theorem size_accepted {size : Int32} (hpos : ¬ size ≤ 0) (hbound : ¬ Int32.ofNat maxProxyRunningLockNum < size) :
    0 < size.toNatClampNeg ∧ size.toNatClampNeg ≤ maxProxyRunningLockNum ∧
      Int32.ofNat size.toNatClampNeg = size := by
  have hmin : 0 < size.toInt := by
    rw [Int32.le_iff_toInt_le] at hpos
    simpa using hpos
  have hmax : size.toInt ≤ 2000 := by
    rw [Int32.lt_iff_toInt_lt, toInt_maxProxyRunningLockNum] at hbound
    omega
  have hsize : size.toNatClampNeg = size.toInt.toNat := rfl
  refine ⟨by omega, ?_, ?_⟩
  · show size.toNatClampNeg ≤ 2000
    omega
  · apply Int32.ofNat_toNatClampNeg
    rw [Int32.le_iff_toInt_le]
    simpa using Int.le_of_lt hmin

/-- A size within the bound survives the narrowing. -/
theorem size_written {n : Nat} (hbound : n ≤ maxProxyRunningLockNum) :
    (Int32.ofNat n ≤ 0 ↔ n = 0) ∧ ¬ Int32.ofNat maxProxyRunningLockNum < Int32.ofNat n ∧
      (Int32.ofNat n).toNatClampNeg = n := by
  have hmax : n ≤ 2000 := hbound
  have hint : (Int32.ofNat n).toInt = n := Int32.toInt_ofNat_of_lt (by omega)
  refine ⟨?_, ?_, Int32.toNatClampNeg_ofNat_of_lt (by omega)⟩
  · rw [Int32.le_iff_toInt_le, hint, Int32.toInt_zero]
    omega
  · rw [Int32.lt_iff_toInt_lt, hint, toInt_maxProxyRunningLockNum]
    omega

/-- Reading succeeds on what is written of a list of 1 to 2000 entries, and on nothing else. -/
theorem unmarshalling_eq_some {parcel parcel' : Parcel σ} {processInfos : List ProcessInfo} :
    unmarshalling int32 parcel = (some processInfos, parcel') ↔
      (0 < processInfos.length ∧ processInfos.length ≤ maxProxyRunningLockNum) ∧
        ∃ rest, parcel.unread = units int32 processInfos ++ rest ∧
          parcel' = parcel.advance (units int32 processInfos).length := by
  constructor
  · intro hread
    unfold unmarshalling at hread
    split at hread
    next => simp at hread
    next size parcel₁ hsize =>
      split_ifs at hread with hpos hbound
      · simp at hread
      · simp at hread
      · obtain ⟨rest₁, hunread₁, rfl⟩ := Buffer.read_eq_some.mp hsize
        obtain ⟨hlength, rest, hunread, rfl⟩ := (readProcessInfos_eq_some int32).mp hread
        obtain ⟨hmin, hmax, hnarrow⟩ := size_accepted hpos hbound
        have hrest₁ : rest₁ = infosUnits int32 processInfos ++ rest := by
          simpa [hunread₁] using hunread
        rw [← hlength] at hmin hmax hnarrow
        refine ⟨⟨hmin, hmax⟩, rest, ?_, ?_⟩
        · simp [units, hunread₁, hrest₁, hnarrow]
        · simp [units, hnarrow]
  · rintro ⟨⟨hmin, hmax⟩, rest, hunread, rfl⟩
    obtain ⟨hzero, hbound, hnarrow⟩ := size_written hmax
    have hpos : ¬ Int32.ofNat processInfos.length ≤ 0 := by
      rw [hzero]
      omega
    have hsize : parcel.unread =
        int32.write (Int32.ofNat processInfos.length) ++ (infosUnits int32 processInfos ++ rest) := by
      simpa [units] using hunread
    have hinfos : (parcel.advance (int32.write (Int32.ofNat processInfos.length)).length).unread =
        infosUnits int32 processInfos ++ rest := by
      simp [hsize]
    have hread := (readProcessInfos_eq_some int32).mpr ⟨hnarrow.symm, rest, hinfos, rfl⟩
    simp only [unmarshalling, Buffer.read_write hsize, if_neg hpos, if_neg hbound, hread]
    simp [units]

end Model

/-! ## Round trips -/

/-- What is asked of a list: when it is accepted, the written units are read back as that list,
whatever stands before and after them, and reading stops behind them; when it is refused, the parcel
is as it was. -/
structure RoundTrips {σ : Type u} (int32 : FixedCodec Int32 σ) (processInfos : List ProcessInfo) : Prop where
  readsBack : ∀ parcel parcel', marshalling int32 processInfos parcel = (true, parcel') →
    ∃ written, parcel' = parcel.append written ∧ ∀ before after,
      unmarshalling int32 ⟨before ++ written ++ after, before.length⟩ =
        (some processInfos, ⟨before ++ written ++ after, before.length + written.length⟩)
  refused : ∀ parcel parcel', marshalling int32 processInfos parcel = (false, parcel') → parcel' = parcel

section RoundTrip

variable {σ : Type u} (int32 : FixedCodec Int32 σ) {processInfos : List ProcessInfo}

theorem roundTrips_of_length (hmin : 0 < processInfos.length)
    (hmax : processInfos.length ≤ maxProxyRunningLockNum) : RoundTrips int32 processInfos := by
  constructor
  · intro parcel parcel' hwrite
    rw [marshalling_eq, if_pos hmax, Prod.mk.injEq] at hwrite
    refine ⟨units int32 processInfos, hwrite.2.symm, fun before after => ?_⟩
    apply (unmarshalling_eq_some int32).mpr
    refine ⟨⟨hmin, hmax⟩, after, ?_, rfl⟩
    rw [List.append_assoc, Buffer.unread_mk]
  · intro parcel parcel' hwrite
    rw [marshalling_eq, if_pos hmax] at hwrite
    simp at hwrite

/-- The writer accepts the empty list, the reader does not. -/
theorem not_roundTrips_nil : ¬ RoundTrips int32 [] := by
  intro h
  have hwrite : marshalling int32 [] ⟨[], 0⟩ = (true, _) := marshalling_eq int32 [] ⟨[], 0⟩
  obtain ⟨written, -, hread⟩ := h.readsBack _ _ hwrite
  have hlength := ((unmarshalling_eq_some int32).mp (hread [] [])).1.1
  simp at hlength

/-- The size of a list that is too long stays in the parcel. -/
theorem not_roundTrips_of_lt (hmax : maxProxyRunningLockNum < processInfos.length) :
    ¬ RoundTrips int32 processInfos := by
  intro h
  have hwrite := marshalling_eq int32 processInfos ⟨[], 0⟩
  rw [if_neg (Nat.not_le.mpr hmax)] at hwrite
  have hsame := h.refused _ _ hwrite
  rw [Buffer.append_eq_self] at hsame
  exact int32.write_ne_nil _ hsame

end RoundTrip

end PowerMgr.RunningLock.VectorPair
