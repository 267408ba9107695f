import Mathlib.Algebra.Ring.Int.Defs
import Twag.Impl.Core

/-!
# The configuration (`config_manager.cpp`)

`ConfigManager::load`, from what the JSON parser makes of the file. The default
values are assigned one by one to a `TwagConfig` that is not initialised, and two
fields have none: unless the file has an integer for them, they keep what the
memory held before.
-/

namespace Twag.Impl

/-- What the parser returns. -/
inductive Json where
  | null
  | bool (b : Bool)
  | integer (i : Int)
  | real (text : Bytes)
  | string (s : Bytes)
  | array (items : List Json)
  | object (fields : List (Bytes × Json))

namespace Json

def isObject : Json → Bool
  | .object _ => true
  | _ => false

/-- `json[key]`, if `json.contains(key)`. -/
def find (json : Json) (key : String) : Option Json :=
  match json with
  | .object fields => fields.lookup (ascii key)
  | _ => none

/-- `json[key].as_string()`, if there is a string. -/
def string? (json : Json) (key : String) : Option Bytes :=
  match json.find key with
  | some (.string s) => some s
  | _ => none

/-- `json[key].as_integer()`, if there is an integer. -/
def integer? (json : Json) (key : String) : Option Int :=
  match json.find key with
  | some (.integer i) => some i
  | _ => none

end Json

/-- An integer assigned to a `uint32_t`. -/
def toUInt32 (i : Int) : UInt32 := UInt32.ofNat (i % 2 ^ 32).toNat

/-- `TwagConfig`, with the fields that the core does not read. -/
structure FileConfig extends TwagConfig where
  radiusSecret : Bytes
  radiusPort : Int
  fdConfFilename : Bytes
  accessInterface : Bytes
  wlcIp : Bytes
  acctServerIp : Bytes
  acctServerPort : Int
deriving DecidableEq, Repr

/-- What the memory of a `TwagConfig` held before, where it is not assigned. -/
structure ConfigMemory where
  maxActiveSessions : UInt32
  statsLogIntervalSec : UInt32
deriving DecidableEq, Repr

namespace ConfigManager

/-- The defaults. -/
def defaults (mem : ConfigMemory) : FileConfig where
  pgwIp := ascii "127.0.0.1"
  radiusPort := 1812
  radiusSecret := ascii "testing123"
  aaaRealm := ascii "epc.mnc001.mcc001.3gppnetwork.org"
  apn := ascii "internet"
  eapDomain := ascii "wlan.mnc001.mcc001.3gppnetwork.org"
  fdConfFilename := ascii "twag_fd.conf"
  accessInterface := ascii "lo"
  wlcIp := ascii "127.0.0.1"
  acctServerIp := []
  acctServerPort := 1813
  maxActiveSessions := mem.maxActiveSessions
  statsLogIntervalSec := mem.statsLogIntervalSec

/-- `load`; `file` is `none` if the file cannot be opened. -/
def load (mem : ConfigMemory) (file : Option Json) : FileConfig :=
  let config := defaults mem
  match file with
  | none => config
  | some json =>
    if json.isObject then
      { pgwIp := (json.string? "pgw_ip").getD config.pgwIp
        radiusPort := ((json.integer? "radius_port").map toInt32).getD config.radiusPort
        radiusSecret := (json.string? "radius_secret").getD config.radiusSecret
        aaaRealm := (json.string? "aaa_realm").getD config.aaaRealm
        apn := (json.string? "apn").getD config.apn
        eapDomain := (json.string? "eap_domain").getD config.eapDomain
        fdConfFilename := (json.string? "fd_conf_filename").getD config.fdConfFilename
        accessInterface := (json.string? "access_interface").getD config.accessInterface
        wlcIp := (json.string? "wlc_ip").getD config.wlcIp
        acctServerIp := (json.string? "acct_server_ip").getD config.acctServerIp
        acctServerPort := ((json.integer? "acct_server_port").map toInt32).getD
          config.acctServerPort
        maxActiveSessions := ((json.integer? "max_active_sessions").map toUInt32).getD
          config.maxActiveSessions
        statsLogIntervalSec := ((json.integer? "stats_log_interval_sec").map toUInt32).getD
          config.statsLogIntervalSec }
    else config

end ConfigManager

/-- The gateway started at `now` with this configuration file. -/
def Boot.ofFile (mem : ConfigMemory) (file : Option Json) (now : Time) : Boot :=
  ⟨(ConfigManager.load mem file).toTwagConfig, now⟩

end Twag.Impl
