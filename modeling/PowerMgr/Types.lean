import Mathlib.Init

/-! # Enumerations shared by the services

The public enumerations of `power_state_machine_info.h` and `running_lock_info.h`.
-/

namespace PowerMgr

inductive PowerState where
  | awake
  | freeze
  | inactive
  | standBy
  | doze
  | sleep
  | hibernate
  | shutdown
  | dim
  | unknown
  deriving DecidableEq, Repr

inductive DisplayState where
  | off
  | dim
  | on
  | suspend
  | doze
  | dozeSuspend
  | unknown
  deriving DecidableEq, Repr

/-- `RunningLockType`: what a running lock keeps going. -/
inductive RunningLockType where
  | screen
  | background
  | proximityScreenControl
  | coordination
  | backgroundPhone
  | backgroundNotification
  | backgroundAudio
  | backgroundSport
  | backgroundNavigation
  | backgroundTask
  | backgroundUserIdle
  | butt
  deriving DecidableEq, Repr

/-- `StateChangeReason`: why a state change is asked for. -/
inductive StateChangeReason where
  | init
  | timeout
  | runningLock
  | battery
  | thermal
  | work
  | system
  | application
  | settings
  | hardKey
  | touch
  | cable
  | sensor
  | lid
  | camera
  | accessibility
  | reset
  | powerKey
  | keyboard
  | mouse
  | doubleClick
  | switch
  | preBright
  | preBrightAuthSuccess
  | preBrightAuthFailScreenOn
  | preBrightAuthFailScreenOff
  | refresh
  | coordination
  | proximity
  | incomingCall
  | shell
  | pickup
  | aodSliding
  | pen
  | shutDown
  | screenConnect
  | switchingDozeMode
  | hibernate
  | exScreenInit
  | abnormalScreenConnect
  | rollbackHibernate
  | tentMode
  | startDream
  | endDream
  | bluetoothIncomingCall
  | wakeupFromUlsr
  | messageNotification
  | wiredAppcast
  | remote
  | timeoutNoScreenLock
  | exitSystemStr
  | tpTouch
  | tpCover
  | switchSensorhub
  | plugChange
  | peopleLeaving
  | unknown
  deriving DecidableEq, Repr

/-- `PowerErrors`: what a call of the service returns. -/
inductive PowerErrors where
  | ok
  | failure
  | permissionDenied
  | systemApiDenied
  | enterprisePoliciesDenied
  | paramInvalid
  | connectionFail
  | frequentFunctionCall
  | powerModeTransitFailed
  | skipFunctionCall
  | readOperationFailed
  | userParamInvalid
  | writeOperationFailed
  | screenOffBlocked
  | capabilityNotSupported
  deriving DecidableEq, Repr

end PowerMgr
