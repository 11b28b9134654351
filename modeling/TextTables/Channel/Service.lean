import TextTables.Channel.Request
import TextTables.Session.Execution

/-!
# Serving channels

Each request is answered before the next one, in one session that goes on from
channel to channel.
-/

namespace TextTables.Channel

variable {σ : Type} [Store σ]

/-- Answers a request. -/
def respond (max : UInt64) (s : Session σ) : Request → Reply × Session σ
  | .statement text => s.execute text
  | .tooLong _ => (.refused (.commandTooLong max.toNat), s)

/-- Answers requests one after another. -/
def respondAll (max : UInt64) (s : Session σ) : List Request → List Reply × Session σ
  | [] => ([], s)
  | request :: more =>
    let (reply, after) := respond max s request
    let (replies, last) := respondAll max after more
    (reply :: replies, last)

/-- Serves a channel: what is sent, and the session afterwards. -/
def serve (max : UInt64) (s : Session σ) (bytes : List UInt8) : String × Session σ :=
  let (replies, after) := respondAll max s (requests max bytes)
  (framedAll (replies.map Reply.toText), after)

end TextTables.Channel
