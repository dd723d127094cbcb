import PowerManagement.Pm.Device
import PowerManagement.Pm.Send
import PowerManagement.Pm.Broadcast
import PowerManagement.Pm.Registry
import PowerManagement.Pm.Rollback
import PowerManagement.Pm.Find
import PowerManagement.Apm.Suspend
import PowerManagement.Apm.Event
import PowerManagement.Apm.Fifo
import PowerManagement.Apm.State
import PowerManagement.Apm.Client
import PowerManagement.Apm.Kapmd
import PowerManagement.Apm.System
import PowerManagement.Apm.Accounting
import PowerManagement.Apm.Requests
import PowerManagement.Apm.Delivery
import PowerManagement.Apm.Resume
import PowerManagement.Apm.Setup
import PowerManagement.Apm.Options
import PowerManagement.Apm.Idle
import PowerManagement.Apm.Heartbeat
import PowerManagement.Apm.Info
import PowerManagement.Apm.Lifecycle
