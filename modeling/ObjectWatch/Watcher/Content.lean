import ObjectWatch.Gzip.Stream
import ObjectWatch.Settings.Target
import ObjectWatch.Text.Casing
import ObjectWatch.Text.Part

/-!
# The content of a version

The content of a version is handed on as the body that the store served or, when it is a gzip file
that nobody has unpacked yet, as the stream of its decompressed bytes.  Content is unpacked here when
the key says that it is gzip and the transport does not say that it takes care of it.
-/

namespace ObjectWatch

/-- The word by which an encoding says that the transport unpacks the content. -/
def gzipWord : String := "gzip"

/-- Whether the transport takes care of unpacking, which it says in any letter case. -/
def isTransportCompressed (encoding : Option String) : Bool :=
  Text.occurs gzipWord.toList (Text.toLower (encoding.getD "")).toList

/-- Content that can be read. -/
inductive Content where
  | raw (body : Body)
  | unpacked (stream : Gzip.Stream)

namespace Content

/-- The body below the content. -/
def body : Content -> Body
  | raw body => body
  | unpacked stream => stream.body

/-- The name of a kind of content. -/
def kindName : Content -> String
  | raw _ => "raw"
  | unpacked _ => "gzip"

/-- The result of a computation on a part of the content, with the content put together again. -/
def within {σ α : Type} (rebuild : σ -> Content) :
    EStateM.Result Fault σ α -> EStateM.Result Fault Content α
  | .ok value part => .ok value (rebuild part)
  | .error fault part => .error fault (rebuild part)

/-- Read a number of bytes, or everything that is left if the number is negative.  Unpacked content
knows no negative number but -1. -/
def read (size : Int) : Attempt Content Bytes
  | raw body => within raw (body.read (if size < 0 then none else some size.toNat))
  | unpacked stream => within unpacked (stream.read size)

/-- Close the content. -/
def close : Attempt Content Unit
  | raw body => within raw body.close
  | unpacked stream => within unpacked stream.close

/-- A bound on the number of bytes that are still to come. -/
def bound : Content -> Nat
  | raw body => body.rest.length
  | unpacked stream => stream.outputBound

end Content
end ObjectWatch
