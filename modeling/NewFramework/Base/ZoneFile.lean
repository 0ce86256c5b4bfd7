import NewFramework.Base.LocalTime
import NewFramework.Lib.ByteOrder
import NewFramework.Lib.Reader

/-!
# `muduo::TimeZone`, the zone files

A zone is constructed from a file of any content (`readTimeZoneFile` of `muduo/base/TimeZone.cc`).
Reading may end with a `logic_error`, which is caught, or with behaviour that is not defined.  What
memory a large count takes is left out.
-/

namespace NewFramework.Base
open NewFramework.Lib Reader

namespace TimeZone

/-! ## The file -/

/-- What ends the reading of a file. -/
inductive Failure where
  | logicError (what : String)
  | undefined
  deriving DecidableEq, Repr

/-- `detail::File`, what is left of it, and the data that are read into. -/
abbrev File := Reader Failure Data

namespace File

/-- `readBytes(n)` -/
def readBytes (n : Int) : File (List UInt8) := do
  -- char buf[n]
  check (0 ≤ n) .undefined
  exactly n.toNat (.logicError "no enough data")

/-- `be32toh(x)`, of the four bytes of `x` -/
def be32toh (x : List UInt8) : Int32 := Int32.ofNat (beNat x)

/-- `readInt32()` -/
def readInt32 : File Int32 := do
  let x ← exactly 4 (.logicError "bad int32_t data")
  return be32toh x

/-- `readUInt8()` -/
def readUInt8 : File UInt8 := do
  let x ← exactly 1 (.logicError "bad uint8_t data")
  return x.headD 0

end File

open File

/-- The counts of the header. -/
structure Counts where
  isgmtcnt : Int32
  isstdcnt : Int32
  leapcnt : Int32
  timecnt : Int32
  typecnt : Int32
  charcnt : Int32
  deriving DecidableEq, Repr

def readCounts : File Counts := do
  let isgmtcnt ← readInt32
  let isstdcnt ← readInt32
  let leapcnt ← readInt32
  let timecnt ← readInt32
  let typecnt ← readInt32
  let charcnt ← readInt32
  return ⟨isgmtcnt, isstdcnt, leapcnt, timecnt, typecnt, charcnt⟩

/-- What the file has of a local-time type. -/
structure LocaltimeRecord where
  gmtoff : Int32
  isdst : UInt8
  abbrind : UInt8
  deriving DecidableEq, Repr

def readLocaltime : File LocaltimeRecord := do
  let gmtoff ← readInt32
  let isdst ← readUInt8
  let abbrind ← readUInt8
  return ⟨gmtoff, isdst, abbrind⟩

/-- `Localtime(gmtoff, isdst, abbrind)` -/
def LocaltimeRecord.localtime (record : LocaltimeRecord) : Localtime :=
  ⟨record.gmtoff.toInt, record.isdst ≠ 0, record.abbrind.toNat⟩

def pushLocaltime (data : Data) (record : LocaltimeRecord) : Data :=
  { data with localtimes := data.localtimes ++ [record.localtime] }

def pushTransition (transition : Transition) (data : Data) : Data :=
  { data with transitions := data.transitions ++ [transition] }

/-- The loop that makes the transitions of `trans[i]` and `localtimes[i]`. -/
def pushTransitions : List (Int32 × UInt8) → File Unit
  | [] => pure ()
  | (time, localIdx) :: rest => do
    let (_, data) ← get
    match data.localtimes[localIdx.toNat]? with
    | none => throw .undefined
    | some type =>
      update (pushTransition ⟨time.toInt, time.toInt + type.gmtOffset, localIdx.toNat⟩)
      pushTransitions rest

/-- "TZif" -/
def magic : List UInt8 := [84, 90, 105, 102]

/-- The `try` block of `readTimeZoneFile`. -/
def readData : File Unit := do
  let head ← readBytes 4
  check (head = magic) (.logicError "bad head")
  let _version ← readBytes 1
  let _ ← readBytes 15
  let counts ← readCounts
  -- trans.reserve(timecnt)
  check (0 ≤ counts.timecnt.toInt) (.logicError "vector::reserve")
  let trans ← many readInt32 counts.timecnt.toInt.toNat
  let localtimes ← many readUInt8 counts.timecnt.toInt.toNat
  each readLocaltime pushLocaltime counts.typecnt.toInt.toNat
  pushTransitions (trans.zip localtimes)
  let abbreviation ← readBytes counts.charcnt.toInt
  -- the loop for `leapcnt` reads nothing
  update ({ · with abbreviation := abbreviation })

/-- What `readTimeZoneFile` returns, the data, and what it writes to `stderr`. -/
structure ReadFile where
  returned : Bool
  data : Data
  stderr : Option String

/-- `readTimeZoneFile(zonefile, data)`, for the content of the file, if it can be opened -/
def readTimeZoneFile (content : Option (List UInt8)) (data : Data) : Option ReadFile :=
  match content with
  | none => some ⟨true, data, none⟩
  | some bytes =>
    match readData (bytes, data) with
    | .ok () (_, data) => some ⟨true, data, none⟩
    | .error (.logicError what) (_, data) => some ⟨true, data, some what⟩
    | .error .undefined _ => none

end TimeZone

/-- `muduo::TimeZone` -/
structure TimeZone where
  data_ : Option TimeZone.Data

namespace TimeZone
open File

/-- `TimeZone(zonefile)` -/
def ofZonefile (content : Option (List UInt8)) : Option TimeZone := do
  let file ← readTimeZoneFile content ⟨[], [], []⟩
  if file.returned then some ⟨some file.data⟩ else some ⟨none⟩

/-- `valid()` -/
def valid (zone : TimeZone) : Bool := zone.data_.isSome

/-- `toLocalTime(seconds)`, which asserts that there are data -/
def zoneToLocalTime (zone : TimeZone) (seconds : Int) : Option Tm :=
  zone.data_.bind (toLocalTime · seconds)

/-- `fromLocalTime(localTm)`, which asserts that there are data -/
def zoneFromLocalTime (zone : TimeZone) (localTm : Tm) : Option Int :=
  zone.data_.bind (fromLocalTime · localTm)

/-! ## What is read -/

def int32Bytes (value : Int32) : List UInt8 := beBytes 4 value.toUInt32.toNat

theorem be32toh_int32Bytes (value : Int32) : be32toh (int32Bytes value) = value := by
  unfold be32toh int32Bytes
  rw [beNat_beBytes value.toUInt32.toNat_lt]
  exact congrArg Int32.ofUInt32 UInt32.ofNat_toNat

theorem int32Bytes_be32toh {x : List UInt8} (length : x.length = 4) :
    int32Bytes (be32toh x) = x := by
  have fits := beNat_lt x
  rw [length] at fits
  have same : (be32toh x).toUInt32.toNat = beNat x := Nat.mod_eq_of_lt fits
  unfold int32Bytes
  rw [same, ← length, beBytes_beNat]

theorem reads_readInt32 : Reads readInt32 (fun _ => True) int32Bytes := by
  refine (reads_exactly 4 _).map ?_
  intro value used
  constructor
  · rintro ⟨x, length, rfl, rfl⟩
    exact ⟨trivial, (int32Bytes_be32toh length).symm⟩
  · rintro ⟨-, rfl⟩
    exact ⟨_, beBytes_length 4 _, rfl, be32toh_int32Bytes value⟩

theorem reads_readUInt8 : Reads readUInt8 (fun _ => True) (fun b => [b]) := by
  refine (reads_exactly 1 _).map ?_
  intro b used
  constructor
  · rintro ⟨x, length, rfl, rfl⟩
    obtain ⟨b, rfl⟩ := List.length_eq_one_iff.mp length
    exact ⟨trivial, rfl⟩
  · rintro ⟨-, rfl⟩
    exact ⟨[b], rfl, rfl, rfl⟩

def Counts.encode (counts : Counts) : List UInt8 :=
  int32Bytes counts.isgmtcnt ++ int32Bytes counts.isstdcnt ++ int32Bytes counts.leapcnt ++
    int32Bytes counts.timecnt ++ int32Bytes counts.typecnt ++ int32Bytes counts.charcnt

theorem reads_readCounts : Reads readCounts (fun _ => True) Counts.encode where
  eq_ok := by
    intro bytes left data data' counts
    unfold readCounts
    simp only [reads_readInt32.bind_eq_ok, pure_eq_ok, Prod.mk.injEq, Counts.encode,
      List.append_assoc]
    constructor
    · rintro ⟨_, _, -, rfl, _, _, -, rfl, _, _, -, rfl, _, _, -, rfl, _, _, -, rfl, _, _, -, rfl, rfl,
        rfl, rfl⟩
      exact ⟨trivial, rfl, rfl⟩
    · rintro ⟨-, rfl, rfl⟩
      exact ⟨_, _, trivial, rfl, _, _, trivial, rfl, _, _, trivial, rfl, _, _, trivial, rfl, _, _,
        trivial, rfl, _, _, trivial, rfl, rfl, rfl, rfl⟩

def LocaltimeRecord.encode (record : LocaltimeRecord) : List UInt8 :=
  int32Bytes record.gmtoff ++ [record.isdst, record.abbrind]

theorem reads_readLocaltime : Reads readLocaltime (fun _ => True) LocaltimeRecord.encode where
  eq_ok := by
    intro bytes left data data' record
    unfold readLocaltime
    simp only [reads_readInt32.bind_eq_ok, reads_readUInt8.bind_eq_ok, pure_eq_ok, Prod.mk.injEq,
      LocaltimeRecord.encode, List.append_assoc]
    constructor
    · rintro ⟨_, _, -, rfl, _, _, -, rfl, _, _, -, rfl, rfl, rfl, rfl⟩
      exact ⟨trivial, rfl, rfl⟩
    · rintro ⟨-, rfl, rfl⟩
      exact ⟨_, _, trivial, rfl, _, _, trivial, rfl, _, _, trivial, rfl, rfl, rfl, rfl⟩

theorem reads_readBytes (n : Int) :
    Reads (readBytes n) (fun bytes => (bytes.length : Int) = n) id where
  eq_ok := by
    intro bytes left data data' read
    unfold readBytes
    rw [check_bind, (reads_exactly n.toNat _).eq_ok]
    constructor
    · rintro ⟨nonneg, length, rest⟩
      exact ⟨by omega, rest⟩
    · rintro ⟨length, rest⟩
      exact ⟨by omega, by omega, rest⟩

/-- The transition of a time, with the offset of its local-time type. -/
def transitionOf (localtimes : List Localtime) (read : Int32 × UInt8) : Transition where
  gmttime := read.1.toInt
  localtime := read.1.toInt + (localtimes[read.2.toNat]?.map Localtime.gmtOffset).getD 0
  localtimeIdx := read.2.toNat

theorem pushTransitions_cons {time : Int32} {localIdx : UInt8} {rest : List (Int32 × UInt8)}
    {s t : List UInt8 × Data} {u : Unit} :
    pushTransitions ((time, localIdx) :: rest) s = .ok u t ↔
      localIdx.toNat < s.2.localtimes.length ∧ pushTransitions rest
        (s.1, pushTransition (transitionOf s.2.localtimes (time, localIdx)) s.2) = .ok u t := by
  have same : pushTransitions ((time, localIdx) :: rest) s =
      (match s.2.localtimes[localIdx.toNat]? with
      | none => (throw Failure.undefined : File Unit)
      | some type => do
        update (pushTransition ⟨time.toInt, time.toInt + type.gmtOffset, localIdx.toNat⟩)
        pushTransitions rest) s := rfl
  rw [same]
  by_cases inside : localIdx.toNat < s.2.localtimes.length
  · have found := List.getElem?_eq_getElem inside
    unfold transitionOf
    rw [and_iff_right inside, found]
    dsimp only
    rw [bind_eq_ok]
    constructor
    · rintro ⟨_, s', updated, next⟩
      obtain rfl := update_eq_ok.mp updated
      exact next
    · intro next
      exact ⟨(), _, update_eq_ok.mpr rfl, next⟩
  · rw [List.getElem?_eq_none (not_lt.mp inside)]
    refine iff_of_false ?_ (fun both => inside both.1)
    intro done
    contradiction

theorem pushTransitions_eq_ok {all : List (Int32 × UInt8)} {bytes left : List UInt8}
    {data data' : Data} {u : Unit} :
    pushTransitions all (bytes, data) = .ok u (left, data') ↔
      (∀ read ∈ all, read.2.toNat < data.localtimes.length) ∧ bytes = left ∧
        data' = { data with
          transitions := data.transitions ++ all.map (transitionOf data.localtimes) } := by
  induction all generalizing data with
  | nil =>
    simp only [pushTransitions, pure_eq_ok, Prod.mk.injEq]
    constructor
    · rintro ⟨-, rfl, rfl⟩
      simp
    · rintro ⟨-, rfl, rfl⟩
      simp
  | cons read rest ih =>
    rw [pushTransitions_cons, ih, List.forall_mem_cons, and_assoc]
    unfold pushTransition
    dsimp only
    rw [List.map_cons, List.append_assoc, List.singleton_append]

theorem pushTransitions_bind {all : List (Int32 × UInt8)} {f : Unit → File Unit}
    {bytes : List UInt8} {data : Data} {t : List UInt8 × Data} {u : Unit} :
    (pushTransitions all >>= f) (bytes, data) = .ok u t ↔
      (∀ read ∈ all, read.2.toNat < data.localtimes.length) ∧
        f () (bytes, { data with
          transitions := data.transitions ++ all.map (transitionOf data.localtimes) }) =
            .ok u t := by
  rw [bind_eq_ok]
  constructor
  · rintro ⟨_, ⟨left, data'⟩, done, next⟩
    obtain ⟨inside, rfl, rfl⟩ := pushTransitions_eq_ok.mp done
    exact ⟨inside, next⟩
  · rintro ⟨inside, next⟩
    exact ⟨(), _, pushTransitions_eq_ok.mpr ⟨inside, rfl, rfl⟩, next⟩

theorem foldl_pushLocaltime (records : List LocaltimeRecord) (data : Data) :
    records.foldl pushLocaltime data =
      { data with localtimes := data.localtimes ++ records.map LocaltimeRecord.localtime } := by
  induction records generalizing data with
  | nil => simp
  | cons record rest ih =>
    rw [List.foldl_cons, ih]
    simp [pushLocaltime]

/-! ## The format -/

/-- What a file has, with as many of each as it counts. -/
structure Layout where
  version : UInt8
  reserved : List UInt8
  counts : Counts
  trans : List Int32
  localtimes : List UInt8
  records : List LocaltimeRecord
  abbreviation : List UInt8
  reserved_length : reserved.length = 15
  trans_length : (trans.length : Int) = counts.timecnt.toInt
  localtimes_length : (localtimes.length : Int) = counts.timecnt.toInt
  records_length : records.length = counts.typecnt.toInt.toNat
  abbreviation_length : (abbreviation.length : Int) = counts.charcnt.toInt

namespace Layout

variable (file : Layout)

def encode : List UInt8 :=
  magic ++ file.version :: file.reserved ++ file.counts.encode ++ file.trans.flatMap int32Bytes ++
    file.localtimes ++ file.records.flatMap LocaltimeRecord.encode ++ file.abbreviation

def data : Data where
  transitions := (file.trans.zip file.localtimes).map
    (transitionOf (file.records.map LocaltimeRecord.localtime))
  localtimes := file.records.map LocaltimeRecord.localtime
  abbreviation := file.abbreviation

/-- The types of the transitions are there. -/
def Indexed : Prop := ∀ localIdx ∈ file.localtimes, localIdx.toNat < file.records.length

theorem indexed_iff :
    file.Indexed ↔
      ∀ read ∈ file.trans.zip file.localtimes, read.2.toNat < file.records.length := by
  have same : (file.trans.zip file.localtimes).map Prod.snd = file.localtimes := by
    apply List.map_snd_zip
    have lengths := file.trans_length.trans file.localtimes_length.symm
    omega
  unfold Indexed
  conv_lhs => rw [← same]
  exact List.forall_mem_map

end Layout

/-- The `try` block is left without an exception for the files of the format, and no others. -/
theorem readData_eq_ok {bytes left : List UInt8} {data : Data} :
    readData (bytes, ⟨[], [], []⟩) = .ok () (left, data) ↔
      ∃ file : Layout, bytes = file.encode ++ left ∧ file.Indexed ∧ data = file.data := by
  unfold readData
  simp only [(reads_readBytes _).bind_eq_ok, check_bind, reads_readCounts.bind_eq_ok,
    (reads_readInt32.many _).bind_eq_ok, (reads_readUInt8.many _).bind_eq_ok,
    reads_readLocaltime.each_bind, foldl_pushLocaltime, pushTransitions_bind, update_eq_ok,
    List.flatMap_singleton', List.nil_append, List.length_map, Prod.mk.injEq, id_eq]
  constructor
  · rintro ⟨_, _, -, rfl, rfl, version, _, one, rfl, reserved, _, reserved_length, rfl, counts, _, -,
      rfl, nonneg, trans, _, ⟨trans_length, -⟩, rfl, localtimes, _, ⟨localtimes_length, -⟩, rfl,
      records, _, ⟨records_length, -⟩, rfl, inside, abbreviation, _, abbreviation_length, rfl, rfl,
      rfl⟩
    obtain ⟨version, rfl⟩ := List.length_eq_one_iff.mp (Int.ofNat.inj one)
    let file : Layout :=
      { version, reserved, counts, trans, localtimes, records, abbreviation
        reserved_length := Int.ofNat.inj reserved_length
        trans_length := by omega
        localtimes_length := by omega
        records_length, abbreviation_length }
    refine ⟨file, ?_, file.indexed_iff.mpr inside, rfl⟩
    simp [Layout.encode, file]
  · rintro ⟨file, rfl, indexed, rfl⟩
    have trans_length := file.trans_length
    have localtimes_length := file.localtimes_length
    refine ⟨magic, _, rfl, ?_, rfl, [file.version], _, rfl, rfl, file.reserved, _,
      congrArg Int.ofNat file.reserved_length, rfl, file.counts, _, trivial, rfl, by omega,
      file.trans, _, ⟨by omega, fun _ _ => trivial⟩, rfl, file.localtimes, _,
      ⟨by omega, fun _ _ => trivial⟩, rfl, file.records, _,
      ⟨file.records_length, fun _ _ => trivial⟩, rfl, file.indexed_iff.mp indexed,
      file.abbreviation, left, file.abbreviation_length, rfl, rfl, rfl⟩
    simp [Layout.encode]

/-! ## Validation -/

/-- The indexes of a file are in range, and it has a local-time type. -/
structure Layout.Valid (file : Layout) : Prop where
  indexed : file.Indexed
  records : file.records ≠ []
  abbrind : ∀ record ∈ file.records, record.abbrind.toNat < file.abbreviation.length

theorem Layout.inRange_iff {file : Layout} (indexed : file.Indexed) :
    InRange file.data ↔ file.Valid := by
  constructor
  · intro inRange
    refine ⟨indexed, ?_, ?_⟩
    · rintro none
      exact inRange.localtimes (congrArg (List.map LocaltimeRecord.localtime) none)
    · intro record mem
      exact inRange.arrbIdx record.localtime (List.mem_map_of_mem mem)
  · intro valid
    refine ⟨?_, ?_, ?_⟩
    · exact fun none => valid.records (List.map_eq_nil_iff.mp none)
    · intro transition mem
      obtain ⟨read, mem_read, rfl⟩ := List.mem_map.mp mem
      have inside := file.indexed_iff.mp indexed read mem_read
      exact inside.trans_eq (List.length_map _).symm
    · intro type mem
      obtain ⟨record, mem_record, rfl⟩ := List.mem_map.mp mem
      exact valid.abbrind record mem_record

/-- A file whose times increase has data that are well-formed. -/
theorem Layout.Valid.wellFormed {file : Layout} (valid : file.Valid)
    (increasing : ∀ comp : Comp,
      file.data.transitions.Pairwise fun a b => comp.key a < comp.key b) :
    WellFormed file.data where
  toInRange := (Layout.inRange_iff valid.indexed).mpr valid
  shifted := by
    intro transition mem type typed
    obtain ⟨read, -, rfl⟩ := List.mem_map.mp mem
    change (file.records.map LocaltimeRecord.localtime)[read.2.toNat]? = some type at typed
    unfold transitionOf
    rw [typed]
    rfl
  increasing := increasing

/-- The `try` block is left at its end. -/
def ParsedWholly (content : Option (List UInt8)) (data : Data) : Prop :=
  ∃ bytes left, content = some bytes ∧
    readData (bytes, ⟨[], [], []⟩) = .ok () (left, data)

/-- A zone is constructed; it is valid only where its file was parsed and the indexes are in range,
and every look-up in a valid zone stays inside of the vectors. -/
def Validated (content : Option (List UInt8)) : Prop :=
  ∃ zone, ofZonefile content = some zone ∧
    (zone.valid → ∃ data, zone.data_ = some data ∧ ParsedWholly content data ∧ InRange data) ∧
    (zone.valid → ∀ seconds localTm,
      (zone.zoneToLocalTime seconds).isSome ∧ (zone.zoneFromLocalTime localTm).isSome)

/-- `readTimeZoneFile` returns `true` whether or not it has read the file. -/
theorem returned_of_readTimeZoneFile {content : Option (List UInt8)} {data : Data} {file : ReadFile}
    (read : readTimeZoneFile content data = some file) : file.returned := by
  unfold readTimeZoneFile at read
  split at read
  · obtain rfl := Option.some.inj read
    rfl
  · split at read
    · obtain rfl := Option.some.inj read
      rfl
    · obtain rfl := Option.some.inj read
      rfl
    · contradiction

/-- So every zone that is constructed is valid. -/
theorem valid_of_constructed {content : Option (List UInt8)} {zone : TimeZone}
    (constructed : ofZonefile content = some zone) : zone.valid := by
  obtain ⟨file, read, made⟩ := Option.bind_eq_some_iff.mp constructed
  rw [if_pos (returned_of_readTimeZoneFile read)] at made
  obtain rfl := Option.some.inj made
  rfl

theorem constructed_of_parsed {content : Option (List UInt8)} {data : Data}
    (parsed : ParsedWholly content data) : ofZonefile content = some ⟨some data⟩ := by
  obtain ⟨bytes, left, rfl, done⟩ := parsed
  simp only [ofZonefile, readTimeZoneFile, done]
  rfl

/-- A zone is validated exactly where its file has the format, with all indexes in range. -/
theorem validated_iff (content : Option (List UInt8)) :
    Validated content ↔
      ∃ (file : Layout) (left : List UInt8), file.Valid ∧ content = some (file.encode ++ left) := by
  constructor
  · rintro ⟨zone, constructed, sound, -⟩
    obtain ⟨data, -, ⟨bytes, left, rfl, done⟩, inRange⟩ := sound (valid_of_constructed constructed)
    obtain ⟨file, rfl, indexed, rfl⟩ := readData_eq_ok.mp done
    exact ⟨file, left, (Layout.inRange_iff indexed).mp inRange, rfl⟩
  · rintro ⟨file, left, valid, rfl⟩
    have parsed : ParsedWholly (some (file.encode ++ left)) file.data :=
      ⟨_, left, rfl, readData_eq_ok.mpr ⟨file, rfl, valid.indexed, rfl⟩⟩
    have inRange := (Layout.inRange_iff valid.indexed).mpr valid
    refine ⟨_, constructed_of_parsed parsed, ?_, ?_⟩
    · intro _
      exact ⟨file.data, rfl, parsed, inRange⟩
    · intro _ seconds localTm
      exact ⟨inRange.toLocalTime_isSome seconds, inRange.fromLocalTime_isSome localTm⟩

/-- A file that is not there makes a valid zone, which looks for a local-time type of none. -/
theorem not_validated_missing :
    ¬ Validated none ∧ ∃ zone, ofZonefile none = some zone ∧ zone.valid ∧
      zone.zoneToLocalTime 0 = none := by
  refine ⟨?_, _, rfl, rfl, rfl⟩
  rintro ⟨zone, constructed, sound, -⟩
  obtain rfl := Option.some.inj constructed
  obtain ⟨data, -, ⟨bytes, left, missing, -⟩, -⟩ := sound rfl
  contradiction

-- one local-time type, without an offset, and the characters "UTC"
example : ofZonefile (some (magic ++ List.replicate 35 0 ++ [1, 0, 0, 0, 4] ++
    [0, 0, 0, 0, 0, 0] ++ [85, 84, 67, 0])) =
      some ⟨some ⟨[], [⟨0, false, 0⟩], [85, 84, 67, 0]⟩⟩ := rfl

end TimeZone

end NewFramework.Base
