import TokenFactory.Go.Map
import TokenFactory.Go.Text

namespace TokenFactory.RateLimit

open Go

/-! The limiter of model requests without Redis: it counts in memory. The blacklist is only kept in Redis. -/

structure Entry where
  text : String
  expiresAt : Option Int := none
deriving DecidableEq

/-- The time of the program and that of Redis, in milliseconds. -/
structure Clock where
  now : Int
  redis : Int
deriving DecidableEq

/-- An entry that has expired is gone. -/
def live (clock : Clock) (entry : Option Entry) : Option Entry :=
  entry.filter fun entry => entry.expiresAt.all (clock.redis < ·)

/-- `EXPIRE`: no time left deletes the entry. -/
def expire (clock : Clock) (seconds : Int) (entry : Option Entry) : Option Entry :=
  if 0 < seconds then entry.map fun entry => { entry with expiresAt := some (clock.redis + 1000 * seconds) } else none

inductive Verdict where
  | counted
  | limited
  | failed
deriving DecidableEq

/-- The times of a key in seconds, with the oldest one in front; there is always one. -/
structure Queue where
  oldest : Int
  newer : List Int
deriving DecidableEq

def Queue.last (queue : Queue) : Int := queue.newer.getLast?.getD queue.oldest

/-- `InMemoryRateLimiter.Request`. The first request is counted whatever the maximum is, unless no slice of that
capacity can be made, which panics. -/
def memoryRequest (now maxRequestNum duration : Int) (queue : Option Queue) : Verdict × Option Queue :=
  match queue with
  | none => if maxRequestNum < 0 then (.failed, none) else (.counted, some { oldest := now, newer := [] })
  | some queue =>
    if queue.newer.length + 1 < maxRequestNum then (.counted, some { queue with newer := queue.newer ++ [now] })
    else if duration ≤ now - queue.oldest then
      (.counted, some <|
        match queue.newer with
        | [] => { oldest := now, newer := [] }
        | next :: rest => { oldest := next, newer := rest ++ [now] })
    else (.limited, some queue)

structure Stores where
  redis : GoMap Entry := .empty
  memory : GoMap Queue := .empty

/-- A command on the entry of a key. -/
def redisAt {Result : Type} (key : String) (command : Option Entry → Result × Option Entry) : StateM Stores Result :=
  fun stores =>
    let (result, entry) := command (stores.redis key)
    (result, { stores with redis := fun other => if other = key then entry else stores.redis other })

def memoryAt {Result : Type} (key : String) (command : Option Queue → Result × Option Queue) : StateM Stores Result :=
  fun stores =>
    let (result, queue) := command (stores.memory key)
    (result, { stores with memory := fun other => if other = key then queue else stores.memory other })

def clearExpiredItems (now expirationSeconds : Int) : StateM Stores Unit := fun stores =>
  ((), { stores with
    memory := fun key => (stores.memory key).filter fun queue => now - queue.last ≤ expirationSeconds })

/-- What the client gets: the next handler, or an answer. -/
inductive Decision where
  | next
  | tooManyRequests
  | panicked
deriving DecidableEq

structure Settings where
  redisEnabled : Bool

namespace Settings

variable (settings : Settings)

def blacklistKey (userID : Nat) : String := "rateLimit:blacklist:user:" ++ itoa userID

def addUserRateLimitBlacklist (clock : Clock) (userID : Nat) (ttlSeconds : Int) (reason : String) :
    StateM Stores Unit :=
  if settings.redisEnabled = false ∨ userID = 0 ∨ ttlSeconds ≤ 0 then pure ()
  else redisAt (blacklistKey userID) fun _ => ((), expire clock ttlSeconds (some { text := trimSpace reason }))

def isUserRateLimitBlacklisted (clock : Clock) (userID : Nat) : StateM Stores Bool :=
  if settings.redisEnabled = false ∨ userID = 0 then pure false
  else redisAt (blacklistKey userID) fun entry => ((live clock entry).isSome, entry)

/-- The check has a counter of its own, which counts the requests that fail as well. -/
def memoryRateLimitHandler (clock : Clock) (userID : Nat) (duration totalMaxCount successMaxCount : Int)
    (succeeds : Bool) : StateM Stores Decision := do
  if ← settings.isUserRateLimitBlacklisted clock userID then return .tooManyRequests
  else
    let now := clock.now / 1000
    let limitTotal : StateM Stores Verdict :=
      if 0 < totalMaxCount then memoryAt ("MRRL" ++ itoa userID) (memoryRequest now totalMaxCount duration)
      else pure .counted
    match ← limitTotal with
    | .failed => return .panicked
    | .limited =>
      settings.addUserRateLimitBlacklist clock userID duration "model-total-rate-limit"
      return .tooManyRequests
    | .counted =>
      match ← memoryAt ("MRRLS" ++ itoa userID ++ "_check") (memoryRequest now successMaxCount duration) with
      | .failed => return .panicked
      | .limited =>
        settings.addUserRateLimitBlacklist clock userID duration "model-success-rate-limit"
        return .tooManyRequests
      | .counted =>
        memoryAt ("MRRLS" ++ itoa userID) fun queue =>
          ((), if succeeds then (memoryRequest now successMaxCount duration queue).2 else queue)
        return .next

end Settings

end TokenFactory.RateLimit
