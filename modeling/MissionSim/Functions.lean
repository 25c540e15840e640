import MissionSim.MemoryMap
import MissionSim.Subsystems

/-!
# The functions of service 8

A function call names a function and carries its arguments.  The identifier alone decides
which subsystem a call is routed to; the router of that subsystem then makes commands of the
octets, or refuses them, or answers with a report.

`functionAction` is the whole of the decoding, apart from what it does.
-/

namespace Spacecraft

open Octets Binary32 Python Memory

/-- The routers of `_handle_s8`. -/
inductive Route where
  | aocs | eps | payload | tcs | obdh | ttc | prop
  /-- `_route_legacy_quick_action`. -/
  | quickAction
  deriving DecidableEq, Repr

/-- Whether `n` is in `range(start, stop)`. -/
def inRange (start stop n : Nat) : Bool := decide (start ≤ n) && decide (n < stop)

/-- The router a function is handed to. -/
def route (funcId : Nat) : Option Route :=
  if inRange 0 16 funcId then some .aocs
  else if inRange 16 26 funcId then some .eps
  else if inRange 26 40 funcId then some .payload
  else if inRange 40 50 funcId then some .tcs
  else if inRange 50 63 funcId then some .obdh
  else if inRange 63 80 funcId then some .ttc
  else if funcId = 80 then some .obdh
  else if funcId = 81 ∨ funcId = 82 then some .eps
  else if funcId = 83 then some .eps
  else if funcId = 84 then some .aocs
  else if inRange 85 92 funcId then some .aocs
  else if inRange 92 96 funcId then some .payload
  else if inRange 108 119 funcId then some .prop
  else if inRange 100 108 funcId then some .quickAction
  else none

/-- The model a router asks for before anything else. -/
def Route.model : Route → Option String
  | .aocs => some "aocs"
  | .eps => some "eps"
  | .payload => some "payload"
  | .tcs => some "tcs"
  | .obdh => some "obdh"
  | .ttc => some "ttc"
  | .prop => some "prop"
  | .quickAction => none

/-- When a command of a sequence is given. -/
inductive Guard where
  | always
  /-- `result.get("success", False)` of the command before. -/
  | succeeded
  /-- `not self._err_reason`. -/
  | noRefusal
  deriving DecidableEq, Repr

/-- One `_cmd` of a router. -/
structure Call where
  model : String
  command : Command
  guard : Guard := .always
  deriving DecidableEq, Repr

/-- What a router makes of a call. -/
inductive Action where
  /-- Commands, one after another; none when the function or its data is ignored. -/
  | calls (calls : List Call)
  /-- `_make_error_response`. -/
  | refuse (errorCode : Nat) (message : String)
  /-- `generate_s1_exec_fail` with `ERR_BAD_ARGUMENT`. -/
  | execFail (message : String)
  /-- A command, and the report made of its reply: its subtype and data. -/
  | query (call : Call) (answer : Reply → Except PyError (Option (Nat × Bytes)))
  /-- Function 80. -/
  | gpsTimeSync

/-- The call is ignored. -/
def Action.ignored : Action := .calls []

/-- One command. -/
def Action.call (model name : String) (args : List (String × Argument) := []) : Action :=
  .calls [{ model := model, command := { name := name, args := args } }]

/-! ### Arguments -/

/-- `data[0] if data else default`. -/
def octetOr (default : Nat) (data : Bytes) : Argument :=
  .int (match data with
    | byte :: _ => byte.toNat
    | [] => default)

/-- `bool(data[0]) if data else default`. -/
def flagOr (default : Bool) (data : Bytes) : Argument :=
  .bool (match data with
    | byte :: _ => byte != 0
    | [] => default)

/-- `struct.unpack('>H', data[:2])[0] if len(data) >= 2 else 0`. -/
def wordOrZero (data : Bytes) : Argument := .int (if 2 ≤ data.length then unpackU16 data else 0)

/-- `struct.unpack('>f', data[at:at + 4])[0]`. -/
def floatAt (position : Nat) (data : Bytes) : FloatValue := unpackFloat (data.drop position)

/-- `0.01`. -/
def hundredth : FloatValue := .finite false 5764607523034235 (-59)

/-- `0.001`. -/
def thousandth : FloatValue := .finite false 1152921504606847 (-60)

/-- `0.1`. -/
def tenth : FloatValue := .finite false 3602879701896397 (-55)

/-- `273.15`. -/
def iceKelvin : FloatValue := .finite false 2402652809016115 (-43)

/-- A small number as a floating-point value. -/
def floatOf (n : Nat) : FloatValue := .finite false n 0

/-- The sixteen-bit number at a position, times a scale. -/
def scaledWordAt (scale : FloatValue) (position : Nat) (data : Bytes) : FloatValue :=
  (floatOf (unpackU16 (data.drop position))).mul scale

/-- A signed sixteen-bit number. -/
def unpackS16 (data : Bytes) : Int :=
  if unpackU16 data < 2 ^ 15 then unpackU16 data else (unpackU16 data : Int) - 2 ^ 16

/-- A number of a reply, with its default. -/
def Reply.value (r : Reply) (name : String) (default : Value) : Value :=
  (r.values.lookup name).getD default

/-- An entry of the nested dictionary of a reply, with its default. -/
def Reply.entry (r : Reply) (name : String) (default : Value) : Value :=
  (r.table.lookup name).getD default

/-- `struct.pack('>f', value)`. -/
def packFloatValue (value : Value) : Except PyError Bytes := value.toFloat >>= packFloat

/-- `int(value) & (2 ** bits - 1)` in a field of that many bits. -/
def packMasked (octets : Nat) (value : Value) : Except PyError Bytes := do
  let n ← value.toInt
  packUnsigned octets (n % 2 ^ (8 * octets))

/-- `0.0`. -/
def zero : Value := .float (floatOf 0)

/-! ### The routers -/

/-- `_route_aocs_cmd(func_id, data)`. -/
def aocsAction (funcId : Nat) (data : Bytes) : Action :=
  match funcId with
  | 0 => .call "aocs" "set_mode" [("mode", octetOr 0 data)]
  | 1 => .call "aocs" "desaturate"
  | 2 => .call "aocs" "disable_wheel" [("wheel", octetOr 0 data)]
  | 3 => .call "aocs" "enable_wheel" [("wheel", octetOr 0 data)]
  | 4 => .call "aocs" "st_power" [("unit", .int 1), ("on", flagOr true data)]
  | 5 => .call "aocs" "st_power" [("unit", .int 2), ("on", flagOr true data)]
  | 6 => .call "aocs" "st_select" [("unit", octetOr 1 data)]
  | 7 => .call "aocs" "mag_select"
      [("source", .text (if flagOr false data = .bool true then "B" else "A"))]
  | 8 =>
      if 5 ≤ data.length then
        .call "aocs" "rw_set_speed_bias"
          [("wheel", octetOr 0 data), ("bias", .float (floatAt 1 data))]
      else .ignored
  | 9 => .call "aocs" (if flagOr true data = .bool true then "mtq_enable" else "mtq_disable")
  | 10 =>
      if 20 ≤ data.length then
        .call "aocs" "slew_to_quaternion"
          [("quaternion", .floats [floatAt 0 data, floatAt 4 data, floatAt 8 data,
            floatAt 12 data]), ("rate_dps", .float (floatAt 16 data))]
      else .ignored
  | 11 => .query { model := "aocs", command := { name := "check_momentum" } } fun reply =>
      if reply.succeeds then do
        let momentum ← packFloatValue (reply.value "total_momentum_nms" zero)
        let saturation ← packFloatValue (reply.value "saturation_percent" zero)
        pure (some (130, momentum ++ saturation))
      else pure none
  | 12 => .call "aocs" "begin_acquisition"
  | 13 => .call "aocs" "gyro_calibration"
  | 14 => .call "aocs" "rw_ramp_down" [("wheel", octetOr 255 data),
      ("target_rpm", .float (if 5 ≤ data.length then floatAt 1 data else floatOf 0))]
  | 15 => .call "aocs" "set_deadband"
      [("deadband_deg", .float (if 4 ≤ data.length then floatAt 0 data else hundredth))]
  | 84 => .call "aocs" "gps_set_start_mode" [("start_mode", octetOr 0 data)]
  | 85 => .call "aocs" "set_pointing_frame" [("frame", octetOr 1 data)]
  | 86 =>
      if 16 ≤ data.length then
        .call "aocs" "set_target_quat" [("quaternion", .floats [floatAt 0 data, floatAt 4 data,
          floatAt 8 data, floatAt 12 data])]
      else .execFail "AOCS_SET_TARGET_QUAT needs 16 data bytes (4x float32)"
  | 87 =>
      if 12 ≤ data.length then
        .call "aocs" "set_target_geo" [("lat", .float (floatAt 0 data)),
          ("lon", .float (floatAt 4 data)), ("alt_m", .float (floatAt 8 data))]
      else .execFail "AOCS_SET_TARGET_GEO needs 12 data bytes (3x float32)"
  | 88 =>
      if 8 ≤ data.length then
        .call "aocs" "set_control_bw" [("omega_n", .float (floatAt 0 data)),
          ("zeta", .float (floatAt 4 data))]
      else .execFail "AOCS_SET_CONTROL_BW needs 8 data bytes (2x float32)"
  | 89 => .query { model := "aocs", command := { name := "fine_ready_check" } } fun reply => do
      let mask ← packMasked 1 (reply.value "fine_ready_mask" (.int 0x7F))
      pure (some (130, mask))
  | 90 => .call "aocs" "set_mom_mgmt" [("enable", flagOr false data),
      ("entry_pct", octetOr 70 (data.drop 1)), ("exit_pct", octetOr 20 (data.drop 2))]
  | 91 => .call "aocs" "est_reset" [("mode", octetOr 0 data)]
  | _ => .ignored

/-- `mode >= 1` for the mode octet of a payload command. -/
def coolerNeeded (data : Bytes) : Argument := .bool (1 ≤ unpackU8 data)

/-- `_route_eps_cmd(func_id, data)`. -/
def epsAction (funcId : Nat) (data : Bytes) : Action :=
  match funcId with
  | 16 => .calls
      [{ model := "eps", command := { name := "set_payload_mode", args := [("mode", octetOr 0 data)] } },
       { model := "payload", command := { name := "set_mode", args := [("mode", octetOr 0 data)] } },
       { model := "tcs", command := { name := "fpa_cooler", args := [("on", coolerNeeded data)] } }]
  | 17 => .calls
      [{ model := "eps", command := { name := "set_fpa_cooler", args := [("on", flagOr false data)] } },
       { model := "tcs", command := { name := "fpa_cooler", args := [("on", flagOr false data)] } }]
  | 18 => .call "eps" "set_transponder_tx" [("on", flagOr true data)]
  | 19 =>
      if data.isEmpty then .ignored
      else .call "eps" "power_line_on" [("line_index", octetOr 0 data)]
  | 20 =>
      if data.isEmpty then .ignored
      else .call "eps" "power_line_off" [("line_index", octetOr 0 data)]
  | 21 =>
      if data.isEmpty then .ignored
      else .call "eps" "reset_oc_flag" [("line_index", octetOr 0 data)]
  | 22 =>
      if 2 ≤ data.length then
        .call "eps" "switch_load" [("load_id", octetOr 0 data), ("state", flagOr false (data.drop 1))]
      else .ignored
  | 23 =>
      if 4 ≤ data.length then .call "eps" "set_charge_rate" [("rate_a", .float (floatAt 0 data))]
      else .ignored
  | 24 =>
      if 2 ≤ data.length then
        .call "eps" "set_solar_array_drive" [("angle_deg", .float (quotient (unpackS16 data) 100))]
      else .ignored
  | 25 =>
      if data.isEmpty then .ignored
      else .call "eps" "emergency_load_shed" [("stage", octetOr 0 data)]
  | 81 => .call "eps" "deploy_wing" [("wing", .text (match data with
      | 0 :: _ => "py"
      | 1 :: _ => "my"
      | _ => "both"))]
  | 82 => .call "eps" "get_wing_status"
  | 83 => .call "eps" "set_eps_mode" [("mode", octetOr 1 data)]
  | _ => .ignored

/-- `_route_payload_cmd(func_id, data)`. -/
def payloadAction (funcId : Nat) (data : Bytes) : Action :=
  match funcId with
  | 26 => .calls
      [{ model := "payload", command := { name := "set_mode", args := [("mode", octetOr 0 data)] } },
       { model := "tcs", command := { name := "fpa_cooler", args := [("on", coolerNeeded data)] },
         guard := .succeeded }]
  | 27 => .call "payload" "set_scene" [("scene_id", wordOrZero data)]
  | 28 => .call "payload" "capture" [("scene_id", wordOrZero data),
      ("lines", if 4 ≤ data.length then wordOrZero (data.drop 2) else .int 0)]
  | 29 => .call "payload" "download_image" [("scene_id", wordOrZero data)]
  | 30 => .call "payload" "delete_image" [("scene_id", wordOrZero data)]
  | 31 => .call "payload" "mark_bad_segment" [("segment", octetOr 0 data)]
  | 32 => .call "payload" "get_image_catalog"
  | 33 => .call "payload" "set_band_config" [("mask", octetOr 0x0F data)]
  | 34 =>
      if 8 ≤ data.length then
        .call "payload" "set_integration_time" [("times", .floats [scaledWordAt hundredth 0 data,
          scaledWordAt hundredth 2 data, scaledWordAt hundredth 4 data,
          scaledWordAt hundredth 6 data])]
      else .refuse 0x0003
        "PAYLOAD_SET_INTEGRATION_TIME needs 4x uint16 (0.01 ms/LSB, blue/green/red/nir)"
  | 35 =>
      if 2 ≤ data.length then
        .call "payload" "set_detector_gain" [("gain", .float (scaledWordAt thousandth 0 data))]
      else .refuse 0x0003 "PAYLOAD_SET_GAIN needs uint16 milli-gain (100-10000 = 0.100-10.000)"
  | 36 =>
      if 2 ≤ data.length then
        let setpoint := .float ((scaledWordAt hundredth 0 data).sub iceKelvin)
        .calls
          [{ model := "payload",
             command := { name := "set_cooler_setpoint", args := [("setpoint", setpoint)] } },
           { model := "tcs",
             command := { name := "set_fpa_setpoint", args := [("setpoint_c", setpoint)] },
             guard := .noRefusal }]
      else .refuse 0x0003
        "PAYLOAD_COOLER_SETPOINT needs uint16 centi-kelvin (25315-27315 = -20..0 degC)"
  | 37 => .call "payload" "start_calibration" [("mode", octetOr 2 data)]
  | 38 => .call "payload" "stop_calibration"
  | 39 =>
      if 2 ≤ data.length then
        .call "payload" "set_compression" [("algorithm", octetOr 0 data),
          ("ratio", .float ((floatOf (unpackU8 (data.drop 1))).mul tenth))]
      else .refuse 0x0003
        "PAYLOAD_SET_COMPRESSION needs algorithm(u8) + ratio_deci(u8, 0=auto)"
  | 92 => .call "payload" "select_filter" [("position", octetOr 0 data)]
  | 93 => .call "payload" "cycle_shutter" [("cycles", octetOr 1 data)]
  | 94 => .call "payload" "initiate_transfer" [("scene_id", wordOrZero data)]
  | 95 => .call "payload" "set_cal_lamp" [("on", flagOr false data)]
  | _ => .ignored

/-- The entries of the thermal map, in the order of the report. -/
def thermalKeys : List String :=
  ["temp_panel_px", "temp_panel_mx", "temp_panel_py", "temp_panel_my", "temp_panel_pz",
   "temp_panel_mz", "temp_obc", "temp_battery", "temp_fpa", "temp_thruster"]

/-- `_route_tcs_cmd(func_id, data)`. -/
def tcsAction (funcId : Nat) (data : Bytes) : Action :=
  match funcId with
  | 40 => .call "tcs" "heater" [("circuit", .text "battery"), ("on", flagOr true data)]
  | 41 => .call "tcs" "heater" [("circuit", .text "obc"), ("on", flagOr true data)]
  | 42 => .call "tcs" "heater" [("circuit", .text "thruster"), ("on", flagOr true data)]
  | 43 => .call "tcs" "fpa_cooler" [("on", flagOr true data)]
  | 44 =>
      if 9 ≤ data.length then
        .call "tcs" "set_setpoint" [("circuit", octetOr 0 data),
          ("on_temp", .float (floatAt 1 data)), ("off_temp", .float (floatAt 5 data))]
      else .ignored
  | 45 => .call "tcs" "auto_mode" [("circuit", octetOr 0 data)]
  | 46 =>
      if 2 ≤ data.length then
        .call "tcs" "set_heater_duty_limit" [("circuit", octetOr 0 data),
          ("duty_limit_pct", .float (floatOf (unpackU8 (data.drop 1))))]
      else .ignored
  | 47 => .call "tcs" "decontamination_start"
      [("target_temp_c", .float (if 4 ≤ data.length then floatAt 0 data else floatOf 50))]
  | 48 => .call "tcs" "decontamination_stop"
  | 49 => .query { model := "tcs", command := { name := "get_thermal_map" } } fun reply =>
      if reply.succeeds then do
        let packed ← thermalKeys.mapM fun key => packFloatValue (reply.entry key zero)
        pure (some (2, packed.flatten))
      else pure none
  | _ => .ignored

/-- The octets a command of the on-board computer answers with, as a report. -/
def octetsReport (reply : Reply) : Except PyError (Option (Nat × Bytes)) :=
  pure (if reply.succeeds then some (2, reply.data) else none)

/-- `_route_obdh_cmd(func_id, data)`. -/
def obdhAction (funcId : Nat) (data : Bytes) : Action :=
  match funcId with
  | 50 => .call "obdh" "set_mode" [("mode", octetOr 0 data)]
  | 51 => .call "obdh" "memory_scrub"
  | 52 => .call "obdh" "obc_reboot"
  | 53 => .call "obdh" "obc_switch_unit"
  | 54 => .call "obdh" "obc_select_bus" [("bus", octetOr 0 data)]
  | 55 => .call "obdh" "obc_boot_app"
  | 56 => .call "obdh" "obc_boot_inhibit" [("inhibit", flagOr true data)]
  | 57 => .call "obdh" "obc_clear_reboot_cnt"
  | 58 =>
      if 2 ≤ data.length then .call "obdh" "set_watchdog_period" [("period", wordOrZero data)]
      else .ignored
  | 59 => .call "obdh" "watchdog_enable"
  | 60 => .call "obdh" "watchdog_disable"
  | 61 => .query { model := "obdh", command := { name := "diagnostic" } } octetsReport
  | 62 => .query { model := "obdh", command := { name := "error_log" } } octetsReport
  | 80 => .gpsTimeSync
  | _ => .ignored

/-- The rate argument of function 65: four octets, one octet, or the default tier's code. -/
def tmRate (defaultRate : Int) (data : Bytes) : Argument :=
  if 4 ≤ data.length then .int (unpackU32 data)
  else if 1 ≤ data.length then octetOr 0 data
  else .int defaultRate

/-- `_route_ttc_cmd(func_id, data)`. -/
def ttcAction (defaultRate : Int) (funcId : Nat) (data : Bytes) : Action :=
  match funcId with
  | 63 => .call "ttc" "switch_primary"
  | 64 => .call "ttc" "switch_redundant"
  | 65 => .call "ttc" "set_tm_rate" [("rate", tmRate defaultRate data)]
  | 66 => .call "ttc" "pa_on"
  | 67 => .call "ttc" "pa_off"
  | 68 =>
      if 1 ≤ data.length then .call "ttc" "set_tx_power" [("level", octetOr 0 data)]
      else .refuse 0x0003
        "TTC_SET_TX_POWER needs a 1-byte level (0=LOW 1 W, 1=NOMINAL 2 W, 2=HIGH 5 W)"
  | 69 => .call "ttc" "deploy_antennas"
  | 70 => .call "ttc" "set_beacon_mode" [("on", flagOr true data)]
  | 71 => .call "ttc" "cmd_channel_start"
  | 72 =>
      if 4 ≤ data.length then .call "ttc" "set_ul_freq" [("freq_mhz", .float (floatAt 0 data))]
      else .ignored
  | 73 =>
      if 4 ≤ data.length then .call "ttc" "set_dl_freq" [("freq_mhz", .float (floatAt 0 data))]
      else .ignored
  | 74 => .call "ttc" "set_modulation" [("mode", octetOr 0 data)]
  | 75 =>
      if 4 ≤ data.length then .call "ttc" "set_rx_gain" [("agc_db", .float (floatAt 0 data))]
      else .ignored
  | 76 => .call "ttc" "ranging_start"
  | 77 => .call "ttc" "ranging_stop"
  | 78 => .call "ttc" "set_coherent_mode" [("on", flagOr true data)]
  | 79 => .call "ttc" "set_downlink_mode" [("on", flagOr true data)]
  | _ => .ignored

/-- The report of PROP_GET_STATUS; none without a status. -/
def propStatus (reply : Reply) : Except PyError (Option (Nat × Bytes)) :=
  if reply.table.isEmpty then pure none
  else do
    let state ← packMasked 1 (reply.entry "state" (.int 0))
    let tank ← packFloatValue (reply.entry "tank_p_bar" zero)
    let propellant ← packFloatValue (reply.entry "propellant_g" zero)
    let catbed ← packFloatValue (reply.entry "catbed_c" zero)
    let remaining ← packFloatValue (reply.entry "dv_remaining_m_s" zero)
    let mask ← packMasked 2 (reply.entry "arm_inhibit_mask" (.int 0))
    let abort ← packMasked 1 (reply.entry "abort_reason" (.int 0))
    pure (some (2, state ++ tank ++ propellant ++ catbed ++ remaining ++ mask ++ abort))

/-- `_route_prop_cmd(func_id, data)`. -/
def propAction (funcId : Nat) (data : Bytes) : Action :=
  match funcId with
  | 108 => .call "prop" "arm" [("arm_code", wordOrZero data)]
  | 109 => .call "prop" "disarm"
  | 110 =>
      if 10 ≤ data.length then
        .call "prop" "set_burn" [("dv_m_s", .float (floatAt 0 data)),
          ("direction", octetOr 0 (data.drop 4)), ("mode", octetOr 0 (data.drop 5)),
          ("t_start_cuc", .int (unpackU32 (data.drop 6)))]
      else .refuse 0x0003 "PROP_SET_BURN needs dv(f32)+direction(u8)+mode(u8)+t_start(u32)"
  | 111 => .call "prop" "execute"
  | 112 => .call "prop" "abort"
  | 113 => .call "prop" "iso_open" [("branch", octetOr 2 data)]
  | 114 => .call "prop" "iso_close" [("branch", octetOr 2 data)]
  | 115 =>
      if 16 ≤ data.length then
        .call "prop" "set_limits" [("att_err_max_deg", .float (floatAt 0 data)),
          ("p_min_bar", .float (floatAt 4 data)), ("catbed_max_c", .float (floatAt 8 data)),
          ("t_burn_max_s", .float (floatAt 12 data))]
      else .ignored
  | 116 => .call "prop" "inhibit_set" [("on", flagOr true data)]
  | 117 => .call "prop" "inhibit_clr" [("key", wordOrZero data)]
  | 118 => .query { model := "prop", command := { name := "get_status" } } propStatus
  | _ => .ignored

/-- `_route_legacy_quick_action(func_id)`. -/
def quickAction (funcId : Nat) : Action :=
  match funcId with
  | 100 => .call "eps" "enable_array" [("array", .text "A")]
  | 101 => .call "eps" "disable_array" [("array", .text "A")]
  | 102 => .call "eps" "enable_array" [("array", .text "B")]
  | 103 => .call "eps" "disable_array" [("array", .text "B")]
  | 104 => .call "tcs" "heater" [("circuit", .text "battery"), ("on", .bool true)]
  | 105 => .call "tcs" "heater" [("circuit", .text "battery"), ("on", .bool false)]
  | 106 => .call "tcs" "heater" [("circuit", .text "obc"), ("on", .bool true)]
  | 107 => .call "tcs" "heater" [("circuit", .text "obc"), ("on", .bool false)]
  | _ => .ignored

/-- What a router makes of a function and its data. -/
def functionAction (defaultRate : Int) (funcId : Nat) (data : Bytes) : Route → Action
  | .aocs => aocsAction funcId data
  | .eps => epsAction funcId data
  | .payload => payloadAction funcId data
  | .tcs => tcsAction funcId data
  | .obdh => obdhAction funcId data
  | .ttc => ttcAction defaultRate funcId data
  | .prop => propAction funcId data
  | .quickAction => quickAction funcId

/-- The error code a router refuses a call with fits its field. -/
def Action.CodeFits : Action → Prop
  | .refuse errorCode _ => errorCode < 2 ^ 16
  | _ => True

theorem codeFits_ite {c : Prop} [Decidable c] {a b : Action} (ha : a.CodeFits)
    (hb : b.CodeFits) : (if c then a else b).CodeFits := by
  split_ifs
  · exact ha
  · exact hb

theorem functionAction_codeFits (defaultRate : Int) (funcId : Nat) (data : Bytes) (r : Route) :
    (functionAction defaultRate funcId data r).CodeFits := by
  have hargument (message : String) : (Action.refuse 0x0003 message).CodeFits :=
    (by decide : (3 : Nat) < 2 ^ 16)
  cases r with
  | aocs =>
      show (aocsAction funcId data).CodeFits
      unfold aocsAction
      split <;> first | trivial | exact codeFits_ite trivial trivial
  | eps =>
      show (epsAction funcId data).CodeFits
      unfold epsAction
      split <;> first | trivial | exact codeFits_ite trivial trivial
  | payload =>
      show (payloadAction funcId data).CodeFits
      unfold payloadAction
      split <;> first | trivial | exact codeFits_ite trivial (hargument _)
  | tcs =>
      show (tcsAction funcId data).CodeFits
      unfold tcsAction
      split <;> first | trivial | exact codeFits_ite trivial trivial
  | obdh =>
      show (obdhAction funcId data).CodeFits
      unfold obdhAction
      split <;> first | trivial | exact codeFits_ite trivial trivial
  | ttc =>
      show (ttcAction defaultRate funcId data).CodeFits
      unfold ttcAction
      split <;> first
        | trivial | exact codeFits_ite trivial trivial | exact codeFits_ite trivial (hargument _)
  | prop =>
      show (propAction funcId data).CodeFits
      unfold propAction
      split <;> first
        | trivial | exact codeFits_ite trivial trivial | exact codeFits_ite trivial (hargument _)
  | quickAction =>
      show (quickAction funcId).CodeFits
      unfold quickAction
      split <;> trivial

end Spacecraft
