/-!
# Store scripts

A script is a Lua program that the store runs as one step. The three scripts decide the requests
of the shared limiters. Their arguments are text, so that scores in microseconds pass through them
without rounding.

## Main definitions

* `Script`: a named program
* `Script.leakyBucket`, `Script.slidingLog`, `Script.slidingWindow`: the programs of the shared
  limiters
-/

namespace Throttle

/-- A named Lua program; a store knows a program by its name and its source together. -/
structure Script where
  name : String
  source : String
deriving DecidableEq, Repr

namespace Script

/-- A leaky bucket in a hash. The key names the bucket; the arguments are its volume and rate, the
units of the request and the time in unix seconds. The reply is 1 on acceptance and 0 on
overflow. -/
def leakyBucket : Script where
  name := "leaky_bucket"
  source := "
local key          = KEYS[1]
local volume       = tonumber(ARGV[1])
local rate         = tonumber(ARGV[2])
local requested    = tonumber(ARGV[3])
local current_time = tonumber(ARGV[4])

local ttl = math.floor((volume / rate) * 2)
if ttl < 60 then
    ttl = 60
end

if redis.call('EXISTS', key) == 0 then
    redis.call('HSET', key, 'last_time', current_time, 'count', 0)
end

local last_time = tonumber(redis.call('HGET', key, 'last_time'))
local count     = tonumber(redis.call('HGET', key, 'count'))
local remain    = count + requested - (current_time - last_time) * rate
if remain <= 0 then
    remain = 0
end

redis.call('HSET', key, 'volume', ARGV[1], 'rate', ARGV[2], 'last_time', ARGV[4])
redis.call('EXPIRE', key, ttl)

if remain > volume then
    redis.call('HSET', key, 'count', ARGV[1])
    return 0
end

redis.call('HSET', key, 'count', remain)
return 1
"

/-- A sliding log in a sorted set. The key names the log; the arguments are the left and the right
boundary and the time in microseconds, the limit, the units of the request and the name of its
first unit. Every unit is a member scored with the time. -/
def slidingLog : Script where
  name := "sliding_log"
  source := "
local key       = KEYS[1]
local left      = ARGV[1]
local right     = ARGV[2]
local now       = ARGV[3]
local limit     = tonumber(ARGV[4])
local requested = tonumber(ARGV[5])
local member    = ARGV[6]

redis.call('ZREMRANGEBYSCORE', key, '-inf', '(' .. left)

if redis.call('ZCOUNT', key, left, right) >= limit then
    return 0
end

redis.call('ZADD', key, now, member)
for i = 1, requested - 1 do
    redis.call('ZADD', key, now, member .. ':' .. i)
end
return 1
"

/-- A sliding window in a sorted set. The key names the window; the arguments are its left boundary
and the time in microseconds, the limit and the name of the request. Members are counted before
the request joins them, and old ones go only when a request is accepted. -/
def slidingWindow : Script where
  name := "sliding_window"
  source := "
local key      = KEYS[1]
local boundary = ARGV[1]
local now      = ARGV[2]
local limit    = tonumber(ARGV[3])
local member   = ARGV[4]

if redis.call('ZCOUNT', key, boundary, now) >= limit then
    return 0
end

redis.call('ZADD', key, now, member)
redis.call('ZREMRANGEBYSCORE', key, '-inf', '(' .. boundary)
return 1
"

end Script

end Throttle
