import PowerMgr.Lib.System
import PowerMgr.Lib.TreeMap
import PowerMgr.Lib.Loop
import PowerMgr.Lib.Timers
import PowerMgr.Lib.Buffer
import PowerMgr.Lib.Checked
import PowerMgr.Lib.Json
import PowerMgr.Lib.CompactJson
import PowerMgr.Lib.WakeupCount
import PowerMgr.Lib.Text
import PowerMgr.Types
import PowerMgr.RunningLock.Mgr
import PowerMgr.RunningLock.Basic
import PowerMgr.RunningLock.Loops
import PowerMgr.RunningLock.States
import PowerMgr.RunningLock.ProxyCount
import PowerMgr.RunningLock.Tally
import PowerMgr.RunningLock.Counters
import PowerMgr.RunningLock.Reversible
import PowerMgr.RunningLock.ProxiedWork
import PowerMgr.RunningLock.TablesAgree
import PowerMgr.RunningLock.ScreenLocks
import PowerMgr.RunningLock.Isolation
import PowerMgr.RunningLock.ForceSleep
import PowerMgr.RunningLock.LockTimers
import PowerMgr.RunningLock.ScreenNotify
import PowerMgr.RunningLock.Coordination
import PowerMgr.StateMachine.Transit
import PowerMgr.StateMachine.DisplayAgree
import PowerMgr.StateMachine.Timeout
import PowerMgr.StateMachine.AutoSuspend
import PowerMgr.StateMachine.ForceSuspend
import PowerMgr.StateMachine.ForceSuspendTasks
import PowerMgr.StateMachine.ScreenOff
import PowerMgr.StateMachine.PowerKey
import PowerMgr.StateMachine.ScreenTimers
import PowerMgr.StateMachine.ScreenCovered
import PowerMgr.StateMachine.ScreenRuns
import PowerMgr.MultiInvoker.Helper
import PowerMgr.MultiInvoker.Or
import PowerMgr.Ulsr.Stage
import PowerMgr.Ulsr.Duty
import PowerMgr.Ulsr.Rounds
import PowerMgr.Suspend.SleepTimer
import PowerMgr.Suspend.ForcedSuspend
import PowerMgr.Suspend.EarliestSleep
import PowerMgr.Suspend.Requests
import PowerMgr.Suspend.SleepCallbacks
import PowerMgr.Suspend.RunningLockHub
import PowerMgr.RunningLock.VectorPair
import PowerMgr.RunningLock.MultiScreen
import PowerMgr.StateMachine.HeldLocks
import PowerMgr.Clients.LockRecovery
import PowerMgr.Clients.LockRecovered
import PowerMgr.StateMachine.Notify
import PowerMgr.StateMachine.ScreenOffTime
import PowerMgr.StateMachine.PreBright
import PowerMgr.StateMachine.Proximity
import PowerMgr.Hibernate.Rollback
import PowerMgr.Hibernate.Attempts
import PowerMgr.Hibernate.LateThreads
import PowerMgr.Clients.DeathRecipients
import PowerMgr.Clients.ScreenOffBlock
import PowerMgr.Clients.StateListeners
import PowerMgr.Clients.PriorityHolders
import PowerMgr.Clients.ScreenOffPre
import PowerMgr.StateMachine.ScreenOffDelay
import PowerMgr.StateMachine.ExternalScreens
import PowerMgr.PowerMode.Announced
import PowerMgr.PowerMode.Policy
import PowerMgr.PowerMode.Recovery
import PowerMgr.PowerMode.GiveBack
import PowerMgr.Settings.Provider
import PowerMgr.Shutdown.Exclusive
import PowerMgr.Shutdown.TakeOver
import PowerMgr.Wakeup.Sources
import PowerMgr.Wakeup.Synced
import PowerMgr.Suspend.InEffect
import PowerMgr.ScreenSaver.Dream
