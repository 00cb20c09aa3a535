/-
The readers of body parts against their writers. A reader takes the image of a value off
the front, whatever stands behind it, and what it gives is a value that has an image:
texts, lists and byte strings whose length a short can hold.
-/

import CqlDriver.Wire.Body

namespace CqlDriver.Wire

def FitsShort (length : Nat) : Prop := length < 65536

/-- A length that an int can hold without a sign. -/
def FitsInt (length : Nat) : Prop := length < 2147483648

def FitsText (text : String) : Prop := FitsShort (Text.Utf8.encode text).length

instance (length : Nat) : Decidable (FitsShort length) :=
  inferInstanceAs (Decidable (length < 65536))

instance (length : Nat) : Decidable (FitsInt length) :=
  inferInstanceAs (Decidable (length < 2147483648))

instance (text : String) : Decidable (FitsText text) :=
  inferInstanceAs (Decidable (FitsShort (Text.Utf8.encode text).length))

namespace Reader

variable {α β : Type} {reader : Reader α} {next : α → Reader β} {front back bytes : List UInt8}
  {value : α} {result : β}

theorem run_bind {Fault : Type} (reader : EStateM Fault (List UInt8) α)
    (next : α → EStateM Fault (List UInt8) β) (bytes : List UInt8) :
    (reader >>= next).run bytes =
      match reader.run bytes with
      | .ok value left => (next value).run left
      | .error fault left => .error fault left := by
  change EStateM.bind reader next bytes = _
  unfold EStateM.bind EStateM.run
  split
  · rename_i read
    rw [read]
  · rename_i read
    rw [read]

/-- A reader takes just these bytes off the front, whatever stands behind them. -/
def Takes (reader : Reader α) (bytes : List UInt8) (value : α) : Prop :=
  ∀ behind, reader.run (bytes ++ behind) = .ok value behind

theorem takes_pure (value : α) : Takes (pure value) [] value := fun _ => rfl

theorem Takes.bind (first : reader.Takes front value) (second : (next value).Takes back result) :
    (reader >>= next).Takes (front ++ back) result := by
  intro behind
  rw [List.append_assoc, run_bind, first]
  exact second behind

theorem Takes.map (make : α → β) (only : reader.Takes bytes value) :
    (reader >>= fun value => pure (make value)).Takes bytes (make value) := by
  rw [← List.append_nil bytes]
  exact only.bind (takes_pure (make value))

theorem Takes.onBody (taken : reader.Takes bytes value) (behind : List UInt8) :
    reader.onBody (bytes ++ behind) = .ok value := by
  unfold Reader.onBody
  rw [taken]

theorem run_ensure {needed : Nat} (what : String) (enough : needed ≤ bytes.length) :
    (ensure what needed).run bytes = .ok () bytes := by
  have long : holds needed bytes = true := (holds_iff needed bytes).mpr enough
  change (if holds needed bytes then (pure () : Reader Unit) else throw _).run bytes = _
  rw [if_pos long]
  rfl

theorem take_takes (bytes : List UInt8) : (take bytes.length).Takes bytes bytes := by
  intro behind
  change EStateM.Result.ok ((bytes ++ behind).take bytes.length)
    ((bytes ++ behind).drop bytes.length) = _
  simp

/-- The test whether enough bytes are left takes none of them. -/
theorem Takes.ensured {what : String} {needed : Nat} (taken : reader.Takes bytes value)
    (enough : needed ≤ bytes.length) :
    (ensure what needed >>= fun _ => reader).Takes bytes value := by
  intro behind
  rw [run_bind, run_ensure what (by simp; omega)]
  exact taken behind

theorem exactly_takes (what : String) (bytes : List UInt8) :
    (exactly what bytes.length).Takes bytes bytes :=
  (take_takes bytes).ensured (Nat.le_refl _)

theorem number_takes (width : Nat) {number : Nat} (what : String)
    (small : number < capacity width) (make : Nat → α) :
    Takes (do return make (ofBigEndian (← exactly what width))) (bigEndian width number)
      (make number) := by
  have taken := exactly_takes what (bigEndian width number)
  rw [length_bigEndian] at taken
  have read := taken.map fun bytes => make (ofBigEndian bytes)
  rw [ofBigEndian_bigEndian, Nat.mod_eq_of_lt small] at read
  exact read

theorem byte_takes (value : UInt8) : byte.Takes [value] value := by
  have read := number_takes 1 "byte" value.toNat_lt UInt8.ofNat
  have image : bigEndian 1 value.toNat = [value] := by simp [bigEndian]
  rw [image, UInt8.ofNat_toNat] at read
  exact read

theorem short_takes_length {length : Nat} (small : length < 65536) :
    short.Takes (bigEndian 2 length) (UInt16.ofNat length) :=
  number_takes 2 "short" small UInt16.ofNat

theorem short_takes (value : UInt16) : short.Takes (Writer.short value) value := by
  have read := short_takes_length value.toNat_lt
  rw [UInt16.ofNat_toNat] at read
  exact read

theorem int_takes_number {number : Nat} (small : number < 4294967296) :
    int.Takes (bigEndian 4 number) (UInt32.ofNat number).toInt32 :=
  number_takes 4 "int" small fun number => (UInt32.ofNat number).toInt32

theorem int_takes (value : Int32) : int.Takes (Writer.int value) value := by
  have read := int_takes_number value.toUInt32.toNat_lt
  rw [UInt32.ofNat_toNat] at read
  exact read

theorem text_takes (text : String) :
    (Reader.text (Text.Utf8.encode text).length).Takes (Text.Utf8.encode text) text := by
  intro behind
  unfold Reader.text
  rw [run_bind, exactly_takes "string" (Text.Utf8.encode text) behind]
  dsimp only
  rw [Text.Utf8.decode_encode]
  rfl

theorem string_takes {text : String} (fits : FitsText text) :
    string.Takes (Writer.string text) text := by
  refine (short_takes_length fits).bind ?_
  rw [UInt16.toNat_ofNat_of_lt' fits]
  exact text_takes text

theorem repeatedOnto_takes {image : α → List UInt8} {values : List α}
    (each : ∀ value ∈ values, reader.Takes (image value) value) (seen : List α) :
    (repeatedOnto reader values.length seen).Takes (values.flatMap image)
      (seen.reverse ++ values) := by
  induction values generalizing seen with
  | nil =>
      rw [List.append_nil]
      exact takes_pure seen.reverse
  | cons first rest ih =>
      have remaining := ih (fun value member => each value (List.mem_cons_of_mem _ member))
        (first :: seen)
      rw [List.reverse_cons, List.append_assoc] at remaining
      exact (each first List.mem_cons_self).bind remaining

theorem counted_takes {image : α → List UInt8} {values : List α} (few : FitsShort values.length)
    (each : ∀ value ∈ values, reader.Takes (image value) value) :
    (counted reader).Takes (bigEndian 2 values.length ++ values.flatMap image) values := by
  refine (short_takes_length few).bind ?_
  rw [UInt16.toNat_ofNat_of_lt' few]
  exact repeatedOnto_takes each []

theorem stringList_takes {values : List String} (few : FitsShort values.length)
    (fit : ∀ value ∈ values, FitsText value) :
    stringList.Takes (Writer.stringList values) values :=
  counted_takes few fun value member => string_takes (fit value member)

theorem keyed_takes {image : α → List UInt8} {key : String} (fits : FitsText key)
    (taken : reader.Takes (image value) value) :
    (keyed reader).Takes (Writer.string key ++ image value) (key, value) :=
  (string_takes fits).bind (taken.map fun value => (key, value))

theorem stringMap_takes {entries : List (String × String)} (few : FitsShort entries.length)
    (fit : ∀ entry ∈ entries, FitsText entry.1 ∧ FitsText entry.2) :
    stringMap.Takes (Writer.stringMap entries) entries :=
  counted_takes few fun entry member =>
    keyed_takes (fit entry member).1 (string_takes (fit entry member).2)

theorem shortBytes_takes {bytes : List UInt8} (fits : FitsShort bytes.length) :
    shortBytes.Takes (Writer.shortBytes bytes) bytes := by
  refine (short_takes_length fits).bind ?_
  rw [UInt16.toNat_ofNat_of_lt' fits]
  exact exactly_takes "short bytes" bytes

theorem int_takes_length {length : Nat} (small : FitsInt length) :
    ∃ number : Int32, int.Takes (bigEndian 4 length) number ∧ number.toInt = length := by
  have below : length < 4294967296 := Nat.lt_trans small (by decide)
  refine ⟨(UInt32.ofNat length).toInt32, int_takes_number below, ?_⟩
  change (Int32.ofNat length).toInt = length
  exact Int32.toInt_ofNat_of_lt small

theorem not_negative {number : Int32} {length : Nat} (same : number.toInt = length) :
    ¬number < 0 := by
  rw [Int32.lt_iff_toInt_lt, same]
  exact Int.not_lt.mpr (Int.natCast_nonneg length)

theorem longString_takes {text : String} (fits : FitsInt (Text.Utf8.encode text).length) :
    longString.Takes (Writer.longString text) text := by
  obtain ⟨length, taken, same⟩ := int_takes_length fits
  refine taken.bind ?_
  rw [if_neg (not_negative same), same, Int.toNat_natCast]
  exact text_takes text

theorem bytes_takes {value : Option (List UInt8)}
    (fits : ∀ bytes ∈ value, FitsInt bytes.length) :
    Reader.bytes.Takes (Writer.bytes value) value := by
  cases value with
  | none =>
      intro behind
      unfold Reader.bytes Writer.bytes
      rw [run_bind, int_takes (-1)]
      rfl
  | some bytes =>
      obtain ⟨length, taken, same⟩ := int_takes_length (fits bytes rfl)
      refine taken.bind ?_
      rw [if_neg (not_negative same), same, Int.toNat_natCast]
      exact (exactly_takes "bytes" bytes).map some

theorem ipv4_takes (bits : BitVec 32) : ipv4.Takes (bigEndian 4 bits.toNat) (.v4 bits) := by
  have read := (take_takes (bigEndian 4 bits.toNat)).map fun bytes =>
    IpAddress.v4 (BitVec.ofNat 32 (ofBigEndian bytes))
  have small : bits.toNat < capacity 4 := bits.isLt
  rw [ofBigEndian_bigEndian, Nat.mod_eq_of_lt small, BitVec.ofNat_toNat, BitVec.setWidth_eq,
    length_bigEndian] at read
  exact read

theorem ipv6_takes (bits : BitVec 128) : ipv6.Takes (bigEndian 16 bits.toNat) (.v6 bits) := by
  have read := (take_takes (bigEndian 16 bits.toNat)).map fun bytes =>
    IpAddress.v6 (BitVec.ofNat 128 (ofBigEndian bytes))
  have small : bits.toNat < capacity 16 := bits.isLt
  rw [ofBigEndian_bigEndian, Nat.mod_eq_of_lt small, BitVec.ofNat_toNat, BitVec.setWidth_eq,
    length_bigEndian] at read
  exact read

def host (size : UInt8) : Reader IpAddress :=
  if size = 4 then ipv4
  else if size = 16 then ipv6
  else throw (.inetLength size.toNat)

def withPort (ip : IpAddress) : Reader SocketAddress := do
  let port ← int
  if 0 ≤ port ∧ port < 65536 then
    return { ip, port := UInt16.ofNat port.toInt.toNat }
  else throw (.inetPort port)

theorem inet_eq :
    inet = byte >>= fun size => ensure "inet address" size.toNat >>= fun _ =>
      host size >>= withPort := by
  unfold inet host
  congr 1
  funext size
  congr 1
  funext _
  split
  · rfl
  · split
    · rfl
    · rfl

theorem withPort_takes (ip : IpAddress) (port : UInt16) :
    (withPort ip).Takes (bigEndian 4 port.toNat) { ip, port } := by
  have below : port.toNat < 65536 := port.toNat_lt
  obtain ⟨number, taken, same⟩ :=
    int_takes_length (show FitsInt port.toNat from Nat.lt_trans below (by decide))
  have inRange : 0 ≤ number ∧ number < 65536 := by
    rw [Int32.le_iff_toInt_le, Int32.lt_iff_toInt_lt, same]
    exact ⟨Int.natCast_nonneg _, by change (port.toNat : Int) < 65536; omega⟩
  intro behind
  unfold withPort
  rw [run_bind, taken]
  dsimp only
  rw [if_pos inRange, same, Int.toNat_natCast, UInt16.ofNat_toNat]
  rfl

theorem host_takes_v4 (bits : BitVec 32) :
    (host 4).Takes (bigEndian 4 bits.toNat) (.v4 bits) := by
  unfold host
  rw [if_pos rfl]
  exact ipv4_takes bits

theorem host_takes_v6 (bits : BitVec 128) :
    (host 16).Takes (bigEndian 16 bits.toNat) (.v6 bits) := by
  unfold host
  rw [if_neg (by decide), if_pos rfl]
  exact ipv6_takes bits

theorem inet_takes_sized {size : UInt8} {ip : IpAddress} (port : UInt16)
    (taken : (host size).Takes front ip) (long : size.toNat ≤ front.length) :
    inet.Takes ([size] ++ (front ++ bigEndian 4 port.toNat)) { ip, port } := by
  rw [inet_eq]
  refine (byte_takes size).bind (Takes.ensured (taken.bind (withPort_takes ip port)) ?_)
  rw [List.length_append]
  omega

theorem inet_takes {address : SocketAddress} (plain : address.scope = 0) :
    inet.Takes (Writer.inet address) address := by
  obtain ⟨ip, port, scope⟩ := address
  cases plain
  unfold Writer.inet
  cases ip with
  | v4 bits =>
      have taken := inet_takes_sized port (host_takes_v4 bits)
        (by rw [length_bigEndian]; decide)
      rw [← List.append_assoc, List.singleton_append] at taken
      exact taken
  | v6 bits =>
      have taken := inet_takes_sized port (host_takes_v6 bits)
        (by rw [length_bigEndian]; decide)
      rw [← List.append_assoc, List.singleton_append] at taken
      exact taken

/-- Whatever a reader accepts, the values it gives have a property. -/
def Gives (reader : Reader α) (holds : α → Prop) : Prop :=
  ∀ body value left, reader.run body = .ok value left → holds value

variable {holds : α → Prop} {holdsNext : β → Prop}

theorem gives_pure (held : holds value) : Gives (pure value) holds := by
  intro body given left read
  cases read
  exact held

theorem gives_throw (fault : BodyFault) : Gives (throw fault : Reader α) holds := by
  intro body given left read
  cases read

theorem gives_ite {condition : Prop} [Decidable condition] {other : Reader α}
    (first : reader.Gives holds) (second : other.Gives holds) :
    Gives (if condition then reader else other) holds := by
  split
  · exact first
  · exact second

theorem gives_anything (reader : Reader α) : reader.Gives fun _ => True :=
  fun _ _ _ _ => trivial

theorem Gives.bind (first : reader.Gives holds)
    (second : ∀ value, holds value → (next value).Gives holdsNext) :
    (reader >>= next).Gives holdsNext := by
  intro body given left read
  rw [run_bind] at read
  cases taken : reader.run body with
  | ok value rest =>
      rw [taken] at read
      exact second value (first body value rest taken) rest given left read
  | error fault rest =>
      rw [taken] at read
      cases read

/-- What a sequence gives, where the value read first does not matter. -/
theorem gives_behind (reader : Reader α) (second : ∀ value, (next value).Gives holdsNext) :
    (reader >>= next).Gives holdsNext :=
  (gives_anything reader).bind fun value _ => second value

theorem Gives.onBody (gives : reader.Gives holds) {body : List UInt8}
    (read : reader.onBody body = .ok value) : holds value := by
  unfold Reader.onBody at read
  cases taken : reader.run body with
  | ok given rest =>
      rw [taken] at read
      cases read
      exact gives body value rest taken
  | error fault rest =>
      rw [taken] at read
      cases read

theorem run_ensure_short {needed : Nat} (what : String) (few : bytes.length < needed) :
    (ensure what needed).run bytes = .error (.truncated what needed bytes.length) bytes := by
  have short : ¬holds needed bytes = true := by
    rw [holds_iff]
    omega
  change (if holds needed bytes then (pure () : Reader Unit)
    else throw (.truncated what needed bytes.length)).run bytes = _
  rw [if_neg short]
  rfl

def Fails (reader : Reader α) (body : List UInt8) (fault : BodyFault) : Prop :=
  ∃ left, reader.run body = .error fault left

theorem exactly_fails (what : String) {count : Nat} (few : bytes.length < count) :
    (exactly what count).Fails bytes (.truncated what count bytes.length) := by
  refine ⟨bytes, ?_⟩
  unfold exactly
  rw [run_bind, run_ensure_short what few]

theorem Fails.bind {fault : BodyFault} (failed : reader.Fails bytes fault) (next : α → Reader β) :
    (reader >>= next).Fails bytes fault := by
  obtain ⟨left, stopped⟩ := failed
  refine ⟨left, ?_⟩
  rw [run_bind, stopped]

theorem Takes.fails {fault : BodyFault} (first : reader.Takes front value)
    (second : (next value).Fails back fault) : (reader >>= next).Fails (front ++ back) fault := by
  obtain ⟨left, stopped⟩ := second
  refine ⟨left, ?_⟩
  rw [run_bind, first]
  exact stopped

theorem Fails.onBody {fault : BodyFault} (failed : reader.Fails bytes fault) :
    reader.onBody bytes = .error fault := by
  obtain ⟨left, stopped⟩ := failed
  unfold Reader.onBody
  rw [stopped]

theorem exactly_run {what : String} {count : Nat} {body given left : List UInt8}
    (read : (exactly what count).run body = .ok given left) :
    body = given ++ left ∧ given.length = count := by
  unfold exactly at read
  rw [run_bind] at read
  by_cases enough : count ≤ body.length
  · rw [run_ensure what enough] at read
    cases read
    exact ⟨(List.take_append_drop count body).symm, List.length_take_of_le enough⟩
  · rw [run_ensure_short what (Nat.lt_of_not_le enough)] at read
    cases read

theorem exactly_gives (what : String) (count : Nat) :
    (exactly what count).Gives fun bytes => bytes.length = count :=
  fun _ _ _ read => (exactly_run read).2

theorem int_run {body left : List UInt8} {number : Int32}
    (read : int.run body = .ok number left) : body = Writer.int number ++ left := by
  unfold int at read
  rw [run_bind] at read
  cases taken : (exactly "int" 4).run body with
  | error fault rest =>
      rw [taken] at read
      cases read
  | ok bytes rest =>
      rw [taken] at read
      cases read
      obtain ⟨rfl, four⟩ := exactly_run taken
      have small : ofBigEndian bytes < 4294967296 := by
        have fits := ofBigEndian_lt bytes
        rw [four] at fits
        exact fits
      unfold Writer.int int32 uint32
      rw [UInt32.toUInt32_toInt32, UInt32.toNat_ofNat_of_lt' small, ← four,
        bigEndian_ofBigEndian rfl]

theorem text_gives (length : Nat) :
    (Reader.text length).Gives fun text => (Text.Utf8.encode text).length = length := by
  refine (exactly_gives "string" length).bind fun bytes long => ?_
  cases decoded : Text.Utf8.decode bytes with
  | ok text =>
      refine gives_pure ?_
      rw [Text.Utf8.encode_of_decode decoded]
      exact long
  | error fault => exact gives_throw (.invalidText fault)

theorem string_gives : string.Gives FitsText := by
  refine gives_behind short fun length => ?_
  intro body text left read
  have same := text_gives length.toNat body text left read
  unfold FitsText FitsShort
  rw [same]
  exact length.toNat_lt

theorem repeatedOnto_gives (each : reader.Gives holds) (count : Nat) (seen : List α)
    (before : ∀ value ∈ seen, holds value) :
    (repeatedOnto reader count seen).Gives fun values =>
      values.length = seen.length + count ∧ ∀ value ∈ values, holds value := by
  induction count generalizing seen with
  | zero =>
      refine gives_pure ⟨by simp, fun value member => before value ?_⟩
      exact List.mem_reverse.mp member
  | succ count ih =>
      refine each.bind fun value held => ?_
      intro body values left read
      have all : ∀ other ∈ value :: seen, holds other := by
        intro other member
        rcases List.mem_cons.mp member with new | old
        · exact new ▸ held
        · exact before other old
      obtain ⟨length, holding⟩ := ih (value :: seen) all body values left read
      refine ⟨?_, holding⟩
      rw [length, List.length_cons]
      omega

theorem counted_gives (each : reader.Gives holds) :
    (counted reader).Gives fun values =>
      FitsShort values.length ∧ ∀ value ∈ values, holds value := by
  refine gives_behind short fun count => ?_
  intro body values left read
  obtain ⟨length, holding⟩ := repeatedOnto_gives each count.toNat []
    (fun _ member => absurd member List.not_mem_nil) body values left read
  refine ⟨?_, holding⟩
  unfold FitsShort
  rw [length, List.length_nil, Nat.zero_add]
  exact count.toNat_lt

theorem stringList_gives :
    stringList.Gives fun values => FitsShort values.length ∧ ∀ value ∈ values, FitsText value :=
  counted_gives string_gives

theorem keyed_gives (each : reader.Gives holds) :
    (keyed reader).Gives fun entry => FitsText entry.1 ∧ holds entry.2 :=
  string_gives.bind fun _ keyFits =>
    each.bind fun _ valueHolds => gives_pure ⟨keyFits, valueHolds⟩

theorem stringMap_gives :
    stringMap.Gives fun entries => FitsShort entries.length ∧
      ∀ entry ∈ entries, FitsText entry.1 ∧ FitsText entry.2 :=
  counted_gives (keyed_gives string_gives)

theorem fitsInt_toNat (number : Int32) : FitsInt number.toInt.toNat := by
  have below := number.toInt_lt
  unfold FitsInt
  omega

theorem longString_gives :
    longString.Gives fun text => FitsInt (Text.Utf8.encode text).length := by
  refine gives_behind int fun length => gives_ite (gives_throw (.negativeLength length)) ?_
  intro body text left read
  rw [text_gives length.toInt.toNat body text left read]
  exact fitsInt_toNat length

theorem bytes_gives :
    Reader.bytes.Gives fun value => ∀ bytes ∈ value, FitsInt bytes.length := by
  refine gives_behind int fun length => gives_ite (gives_pure ?_) ?_
  · intro bytes absent
    cases absent
  · refine (exactly_gives "bytes" length.toInt.toNat).bind fun bytes long => gives_pure ?_
    intro given same
    cases same
    rw [long]
    exact fitsInt_toNat length

theorem shortBytes_gives : shortBytes.Gives fun bytes => FitsShort bytes.length := by
  refine gives_behind short fun length => ?_
  intro body bytes left read
  have long := exactly_gives "short bytes" length.toNat body bytes left read
  unfold FitsShort
  rw [long]
  exact length.toNat_lt

theorem inet_gives : inet.Gives fun address => address.scope = 0 := by
  rw [inet_eq]
  refine gives_behind byte fun size => ?_
  refine gives_behind _ fun _ => ?_
  refine gives_behind (host size) fun ip => ?_
  exact gives_behind int fun port => gives_ite (gives_pure rfl) (gives_throw (.inetPort port))

end Reader
end CqlDriver.Wire
