import ObjectWatch.Deflate.Alphabet
import ObjectWatch.Deflate.Bits

/-!
# The decompressor

A decompressor is a state machine that is fed one bit at a time.  Its state says what the next bit
belongs to, keeps everything decoded so far, and can be put aside at any bit, so feeding a stream in
pieces is feeding it whole.

Output is limited: a machine that has produced as much as was asked for goes on reading until the
next output is due.  Block headers, code tables and the mark at the end of a block are therefore
still read, and a flaw among them is found at once, while a literal, a match or a stored byte waits.
Whether a match reaches back too far is decided only when its turn has come.

`feed` is the machine on bytes.  It stops when the stream has ended, when a flaw was found, when
output is due that was not asked for, or at the end of the input; the bytes it did not begin to
read are handed back.
-/

namespace ObjectWatch
namespace Deflate

/-- What can be wrong with compressed data. -/
inductive Flaw where
  | blockType
  | storedLengths
  | tooManySymbols
  | codeLengthsSet
  | lengthRepeat
  | missingEndOfBlock
  | literalsSet
  | distancesSet
  | literalCode
  | distanceCode
  | distanceTooFar
deriving DecidableEq, Repr

/-- The wording of a flaw. -/
def Flaw.message : Flaw -> String
  | blockType => "invalid block type"
  | storedLengths => "invalid stored block lengths"
  | tooManySymbols => "too many length or distance symbols"
  | codeLengthsSet => "invalid code lengths set"
  | lengthRepeat => "invalid bit length repeat"
  | missingEndOfBlock => "invalid code -- missing end-of-block"
  | literalsSet => "invalid literal/lengths set"
  | distancesSet => "invalid distances set"
  | literalCode => "invalid literal/length code"
  | distanceCode => "invalid distance code"
  | distanceTooFar => "invalid distance too far back"

/-- What a field of bits, lowest bit first, is read for. -/
inductive Field where
  | blockHeader
  | storedLength
  | tableSizes
  /-- The lengths of the length code, of which `wanted` are transmitted. -/
  | orderedLength (sizes : Sizes) (wanted : Nat) (read : Array Nat)
  /-- How often beyond `base` a length is repeated; there may be none to repeat. -/
  | repeatCount (sizes : Sizes) (code : Code) (lengths : Array Nat) (repeated : Option Nat)
      (base : Nat)
  | lengthExtra (codes : Codes) (base : Nat)
  | distanceExtra (codes : Codes) (length base : Nat)

/-- What a codeword is read for. -/
inductive Goal where
  | codeLength (sizes : Sizes) (code : Code) (lengths : Array Nat)
  | literal (codes : Codes)
  | distance (codes : Codes) (length : Nat)

/-- What the next bit belongs to. -/
inductive Phase where
  | field (goal : Field) (want got value : Nat)
  | codeword (goal : Goal) (node : Code)
  /-- The rest of the byte is skipped. -/
  | align
  | stored (left got value : Nat)
  /-- A literal is due. -/
  | literal (codes : Codes) (byte : UInt8)
  /-- A match is due. -/
  | copy (codes : Codes) (length distance : Nat)
  | done
  | failed (flaw : Flaw)

namespace Phase

/-- Read the header of a block. -/
def nextBlock : Phase := field .blockHeader 3 0 0

/-- After a block comes the next one, unless it was marked as the last. -/
def afterBlock (final : Bool) : Phase := if final then done else nextBlock

/-- Read a literal, a length or the end of the block. -/
def nextLiteral (codes : Codes) : Phase := codeword (.literal codes) codes.literals

/-- Read the distance of a match. -/
def nextDistance (codes : Codes) (length : Nat) : Phase :=
  codeword (.distance codes length) codes.distances

/-- Once all lengths of a block were read, its codes are fixed. -/
def afterLengths (sizes : Sizes) (code : Code) (lengths : Array Nat) : Phase :=
  if lengths.size < sizes.total then codeword (.codeLength sizes code lengths) code
  else if lengths[endOfBlock]?.getD 0 = 0 then failed .missingEndOfBlock
  else
    let lengths := lengths.toList
    match Code.forSymbols? (lengths.take sizes.literals) with
    | none => failed .literalsSet
    | some literals =>
        match Code.forSymbols? (lengths.drop sizes.literals) with
        | none => failed .distancesSet
        | some distances => nextLiteral ⟨literals, distances⟩

/-- Once the lengths of the length code were read, the lengths of the other codes follow in it. -/
def afterOrdered (sizes : Sizes) (read : Array Nat) : Phase :=
  match Code.forLengths? (bySymbol read.toList) with
  | none => failed .codeLengthsSet
  | some code => codeword (.codeLength sizes code #[]) code

/-- The phase after a field with the given value. -/
def afterField (final : Bool) (value : Nat) : Field -> Phase
  | .blockHeader =>
      match value / 2 with
      | 0 => align
      | 1 => nextLiteral fixedCodes
      | 2 => field .tableSizes 14 0 0
      | _ => failed .blockType
  | .storedLength =>
      let length := value % 0x10000
      if length + value / 0x10000 = 0xffff then
        if length = 0 then afterBlock final else stored length 0 0
      else failed .storedLengths
  | .tableSizes =>
      let sizes : Sizes := ⟨value % 32 + 257, value / 32 % 32 + 1⟩
      if maxLiterals < sizes.literals ∨ maxDistances < sizes.distances then failed .tooManySymbols
      else field (.orderedLength sizes (value / 1024 + 4) #[]) 3 0 0
  | .orderedLength sizes wanted read =>
      let read := read.push value
      if read.size < wanted then field (.orderedLength sizes wanted read) 3 0 0
      else afterOrdered sizes read
  | .repeatCount sizes code lengths repeated base =>
      match repeated with
      | none => failed .lengthRepeat
      | some length =>
          if sizes.total < lengths.size + (base + value) then failed .lengthRepeat
          else afterLengths sizes code (lengths ++ Array.replicate (base + value) length)
  | .lengthExtra codes base => nextDistance codes (base + value)
  | .distanceExtra codes length base => copy codes length (base + value)

/-- The phase after a codeword for the given symbol. -/
def afterCodeword (final : Bool) (symbol : Nat) : Goal -> Phase
  | .codeLength sizes code lengths =>
      if symbol < 16 then afterLengths sizes code (lengths.push symbol)
      else if symbol = 16 then field (.repeatCount sizes code lengths lengths.back? 3) 2 0 0
      else if symbol = 17 then field (.repeatCount sizes code lengths (some 0) 3) 3 0 0
      else field (.repeatCount sizes code lengths (some 0) 11) 7 0 0
  | .literal codes =>
      if symbol < endOfBlock then literal codes (UInt8.ofNat symbol)
      else if symbol = endOfBlock then afterBlock final
      else
        match lengthSpans[symbol - endOfBlock - 1]? with
        | none => failed .literalCode
        | some ⟨base, 0⟩ => nextDistance codes base
        | some ⟨base, extra⟩ => field (.lengthExtra codes base) extra 0 0
  | .distance codes length =>
      match distanceSpans[symbol]? with
      | none => failed .distanceCode
      | some ⟨base, 0⟩ => copy codes length base
      | some ⟨base, extra⟩ => field (.distanceExtra codes length base) extra 0 0

/-- The flaw of a path that no codeword takes. -/
def flawOf : Goal -> Flaw
  | .codeLength _ _ _ => .codeLengthsSet
  | .literal _ => .literalCode
  | .distance _ _ => .distanceCode

/-- Whether the machine has come to its end. -/
def isOver : Phase -> Bool
  | done => true
  | failed _ => true
  | _ => false

/-- Whether the next thing to happen is output. -/
def wantsRoom : Phase -> Bool
  | literal _ _ => true
  | copy _ _ _ => true
  | stored _ got _ => got == 0
  | _ => false

end Phase

/-- The state of the decompressor. -/
structure Inflater where
  phase : Phase := Phase.nextBlock
  /-- Whether the current block is the last one. -/
  final : Bool := false
  /-- Everything decoded so far. -/
  output : Array UInt8 := #[]
  /-- How much of the output was handed out. -/
  delivered : Nat := 0
  /-- The bits of the current byte that were not read yet. -/
  held : Bits := []

/-- Append `length` bytes, each equal to the byte `distance` places before it.  The copy may run
into what it appends. -/
def copyBack (distance : Nat) : (length : Nat) -> Array UInt8 -> Array UInt8
  | 0, output => output
  | length + 1, output =>
      copyBack distance length (output.push (output[output.size - distance]?.getD 0))

namespace Inflater

/-- Produce the output that is due. -/
def perform : Inflater -> Inflater
  | { phase, final, output, delivered, held } =>
      match phase with
      | .literal codes byte =>
          { phase := .nextLiteral codes, final, output := output.push byte, delivered, held }
      | .copy codes length distance =>
          if output.size < distance then
            { phase := .failed .distanceTooFar, final, output, delivered, held }
          else
            { phase := .nextLiteral codes, final, output := copyBack distance length output,
              delivered, held }
      | phase => { phase, final, output, delivered, held }

/-- Produce the output that is due, if less than `target` bytes were produced. -/
def settle (target : Nat) (s : Inflater) : Inflater :=
  if s.output.size < target then s.perform else s

/-- Take one bit.  A machine whose output is due, or which has come to its end, takes none. -/
def step (bit : Bool) : Inflater -> Inflater
  | { phase, final, output, delivered, held } =>
      match phase with
      | .field goal want got value =>
          let value := if bit then value + Nat.pow 2 got else value
          if got + 1 < want then
            { phase := .field goal want (got + 1) value, final, output, delivered, held }
          else
            let final := match goal with
              | .blockHeader => value % 2 == 1
              | _ => final
            { phase := .afterField final value goal, final, output, delivered, held }
      | .codeword goal node =>
          let phase := match node.follow bit with
            | .missing => .failed (Phase.flawOf goal)
            | .symbol symbol => .afterCodeword final symbol goal
            | node => .codeword goal node
          { phase, final, output, delivered, held }
      | .stored left got value =>
          let value := if bit then value + Nat.pow 2 got else value
          if got < 7 then
            { phase := .stored left (got + 1) value, final, output, delivered, held }
          else
            let phase := if left = 1 then .afterBlock final else .stored (left - 1) 0 0
            { phase, final, output := output.push (UInt8.ofNat value), delivered, held }
      | phase => { phase, final, output, delivered, held }

/-- Whether the machine has to stop when `target` bytes of output are asked for in all. -/
def isHalted (target : Nat) (s : Inflater) : Bool :=
  s.phase.isOver || target < s.output.size || (target == s.output.size && s.phase.wantsRoom)

/-- Read bits for as long as the machine is not halted.  Those left over are held. -/
def advance (target : Nat) : Bits -> Inflater -> Inflater
  | [], s => { s.settle target with held := [] }
  | bit :: bits, s =>
      let s := s.settle target
      if s.isHalted target then { s with held := bit :: bits } else advance target bits (s.step bit)

/-- Begin a byte: after the skipped rest of a byte comes the length of a stored block. -/
def beginByte (byte : UInt8) (s : Inflater) : Inflater :=
  let phase := match s.phase with
    | .align => .field .storedLength 32 0 0
    | phase => phase
  { s with phase, held := bitsOf byte }

/-- Read bytes for as long as the machine is not halted, and hand back the others. -/
def feed (target : Nat) : Bytes -> Inflater -> Inflater × Bytes
  | [], s => (s.advance target s.held, [])
  | byte :: bytes, s =>
      let s := s.advance target s.held
      if s.isHalted target then (s, byte :: bytes) else feed target bytes (s.beginByte byte)

/-- The stream has ended. -/
def isDone (s : Inflater) : Bool :=
  match s.phase with
  | .done => true
  | _ => false

/-- The flaw that was found, if any. -/
def flaw? (s : Inflater) : Option Flaw :=
  match s.phase with
  | .failed flaw => some flaw
  | _ => none

/-- Hand out what was produced up to `target` bytes in all. -/
def deliver (target : Nat) (s : Inflater) : Bytes × Inflater :=
  let upTo := min target s.output.size
  ((s.output.extract s.delivered upTo).toList, { s with delivered := upTo })

/-- Decompress at most `limit` more bytes from the input.  What is not read is handed back.  A flaw
found on the way takes the output of this call with it. -/
def inflate (limit : Nat) (input : Bytes) (s : Inflater) : Except Flaw Bytes × Inflater × Bytes :=
  let target := s.delivered + limit
  let (s, rest) := s.feed target input
  match s.flaw? with
  | some flaw => (.error flaw, s, rest)
  | none => let (chunk, s) := s.deliver target; (.ok chunk, s, rest)

end Inflater
end Deflate
end ObjectWatch
